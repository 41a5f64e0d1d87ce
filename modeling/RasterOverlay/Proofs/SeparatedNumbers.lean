import RasterOverlay.Proofs.DistinctQueries
import RasterOverlay.Proofs.NamedPlaces
import RasterOverlay.Proofs.PaddedNumbers

/-!
Templates whose URLs tell the tiles apart. If a template names the level, the column and the row of a
tile once each, and what stands between two of them does not begin with a digit, every tile has a URL of
its own. Padded or not, a number is the run of digits at the place where it stands, so the three are read
back; the level is needed first, since inverted columns and rows are counted among those of a level.
-/

namespace RasterOverlay

/-! ## Numbers between texts -/

/-- A text that no digit can run into. -/
def Template.Plain.Separates (p : Template.Plain) : Prop :=
  ∃ c rest, p.text = c :: rest ∧ c.isDigit = false

namespace Text

variable {s s' t t' : List Char} {c : Char}

theorem takeWhile_digits_append (hs : ∀ d ∈ s, d.isDigit = true) (hc : c.isDigit = false) :
    (s ++ c :: t).takeWhile Char.isDigit = s := by
  have hstop : ¬ c.isDigit = true := by rw [hc]; exact Bool.false_ne_true
  rw [List.takeWhile_append_of_pos hs, List.takeWhile_cons_of_neg hstop, List.append_nil]

/-- A run of digits in front of a text that separates is told by its digits. -/
theorem digits_at_front {p : Template.Plain} (hp : p.Separates)
    (hs : ∀ d ∈ s, d.isDigit = true) (hs' : ∀ d ∈ s', d.isDigit = true)
    (h : s ++ (p.text ++ t) = s' ++ (p.text ++ t')) : s = s' ∧ t = t' := by
  obtain ⟨c, rest, htext, hc⟩ := hp
  have hsame : s = s' := by
    calc s
        = (s ++ c :: (rest ++ t)).takeWhile Char.isDigit := (takeWhile_digits_append hs hc).symm
      _ = (s' ++ c :: (rest ++ t')).takeWhile Char.isDigit := by
          rw [htext] at h
          exact congrArg _ h
      _ = s' := takeWhile_digits_append hs' hc
  subst hsame
  exact ⟨rfl, List.append_cancel_left (List.append_cancel_left h)⟩

end Text

namespace Template

/-- A template with three placeholders, and with texts around and between them. -/
def threeFields {ρ : Type} (lead : Plain) (first : ρ) (between : Plain) (second : ρ)
    (between' : Plain) (third : ρ) (last : Plain) : List (Segment ρ) :=
  [.plain lead, .field first, .plain between, .field second, .plain between', .field third,
    .plain last]

section

variable {ρ : Type} {lead between between' last : Plain} {first second third : ρ}

theorem toList_filledIn_threeFields (value : ρ → String) :
    (filledIn value (threeFields lead first between second between' third last)).toList =
      lead.text ++ ((value first).toList ++ (between.text ++ ((value second).toList ++
        (between'.text ++ ((value third).toList ++ last.text))))) := by
  simp [filledIn, threeFields, Segment.filled, String.join_cons]

/-- Runs of digits between texts that separate are read back; the last one ends where the last text
begins, whatever that begins with. -/
theorem values_of_filledIn {value value' : ρ → String} (h₁ : between.Separates)
    (h₂ : between'.Separates)
    (hdigits : ∀ role ∈ [first, second, third], ∀ c ∈ (value role).toList, c.isDigit = true)
    (hdigits' : ∀ role ∈ [first, second, third], ∀ c ∈ (value' role).toList, c.isDigit = true)
    (h : filledIn value (threeFields lead first between second between' third last) =
      filledIn value' (threeFields lead first between second between' third last)) :
    ∀ role ∈ [first, second, third], value role = value' role := by
  have htext := congrArg String.toList h
  rw [toList_filledIn_threeFields, toList_filledIn_threeFields] at htext
  -- The lead is the same text, and each number ends where the text behind it begins.
  obtain ⟨hfirst, hbehind⟩ := Text.digits_at_front h₁ (hdigits first (by simp))
    (hdigits' first (by simp)) (List.append_cancel_left htext)
  obtain ⟨hsecond, hlast⟩ := Text.digits_at_front h₂ (hdigits second (by simp))
    (hdigits' second (by simp)) hbehind
  have hthird := List.append_cancel_right hlast
  intro role hrole
  simp only [List.mem_cons, List.not_mem_nil, or_false] at hrole
  apply String.toList_inj.mp
  rcases hrole with rfl | rfl | rfl
  · exact hfirst
  · exact hsecond
  · exact hthird

end

section

variable {ε : Type} {ρ : Type} (spell : ρ → FieldName) {replace : String → Except ε String}

/-- A template that is filled in has a value for each of its roles, and it is filled in with these. -/
theorem exists_values_of_substitute_written {segments : List (Segment ρ)} {text : String}
    (h : substitute replace (written spell segments) = .ok text) :
    ∃ value : ρ → String, (∀ role, .field role ∈ segments →
        replace (String.ofList (spell role).letters) = .ok (value role)) ∧
      text = filledIn value segments := by
  -- A role without a value gets an empty text here; no such role occurs.
  let value (role : ρ) : String :=
    (replace (String.ofList (spell role).letters)).toOption.getD ""
  have hvalue : ∀ role, .field role ∈ segments →
      replace (String.ofList (spell role).letters) = .ok (value role) := by
    intro role hrole
    rw [substitute, parts_written, bind_eq_ok_iff] at h
    obtain ⟨texts, htexts, -⟩ := h
    have hpart : .placeholder (String.ofList (spell role).letters) ∈
        segments.flatMap (Segment.parts spell) :=
      List.mem_flatMap.mpr ⟨_, hrole, List.mem_singleton_self _⟩
    obtain ⟨s, hs⟩ := exists_of_mapM_eq_ok htexts _ hpart
    have hreplaced : replace (String.ofList (spell role).letters) = .ok s := hs
    simp only [value, hreplaced]
    rfl
  refine ⟨value, hvalue, ?_⟩
  have hfilled := substitute_written spell segments hvalue
  exact Except.ok.inj (h.symm.trans hfilled)

end

end Template

/-! ## The three coordinates of a tile -/

/-- A coordinate of a tile. -/
inductive TileAxis where
  | level
  | column
  | row
  deriving DecidableEq

def TileAxis.index : TileAxis → Tile → UInt32
  | level, t => t.level
  | column, t => t.column
  | row, t => t.row

namespace TileNumber

/-- The coordinate that a number is made of. -/
def axis : TileNumber → TileAxis
  | level | reversedLevel => .level
  | column | reversedColumn => .column
  | row | reversedRow => .row

/-- The name of a number in a template. -/
def name : TileNumber → String
  | column => "x"
  | row => "y"
  | level => "z"
  | reversedColumn => "reverseX"
  | reversedRow => "reverseY"
  | reversedLevel => "reverseZ"

theorem ofName_name (n : TileNumber) : TemplateField.ofName n.name = .number n := by
  cases n <;> decide

theorem isName_name (n : TileNumber) : Template.IsName n.name := by
  cases n <;> exact ⟨by decide, List.all_eq_true.mp (by decide)⟩

/-- The name of a number, as it can be written in a template. -/
def spelling (n : TileNumber) : Template.FieldName :=
  ⟨n.name.toList, n.isName_name.ne_nil, n.isName_name.isNameChar⟩

theorem ofList_spelling (n : TileNumber) : String.ofList n.spelling.letters = n.name :=
  String.ofList_toList

end TileNumber

namespace TemplateAddressing

variable {a : TemplateAddressing} {g : Grid Float} {t t' : Tile}

theorem reversedLevel_inj {maxLevel level level' : UInt32}
    (h : reversedLevel maxLevel level = reversedLevel maxLevel level') : level = level' := by
  have hvalue := congrArg UInt32.toNat h
  rw [toNat_reversedLevel, toNat_reversedLevel] at hvalue
  apply UInt32.toNat_inj.mp
  -- A level in front of the deepest one is counted below it, and any other stays at or beyond it.
  split at hvalue
  · split at hvalue
    · omega
    · omega
  · split at hvalue
    · omega
    · omega

theorem inverted_inj {count i i' : UInt32} {e e' : TileError} {m : UInt64}
    (h : (invertRow count i).elim (.error e) (fun k => .ok k.toUInt64) =
      (.ok m : Except TileError UInt64))
    (h' : (invertRow count i').elim (.error e') (fun k => .ok k.toUInt64) =
      (.ok m : Except TileError UInt64)) : i = i' := by
  obtain ⟨k, hk, hwide⟩ := getOrFail_eq_ok_iff.mp h
  obtain ⟨k', hk', hwide'⟩ := getOrFail_eq_ok_iff.mp h'
  obtain rfl := UInt32.toUInt64_inj.mp (hwide.trans hwide'.symm)
  exact invertRow_inj hk hk'

theorem flipped_inj {e e' : TileError} {m : UInt64} (hlevel : t.level = t'.level)
    (h : (flippedRow? t).elim (.error e) .ok = (.ok m : Except TileError UInt64))
    (h' : (flippedRow? t').elim (.error e') .ok = (.ok m : Except TileError UInt64)) :
    t.row = t'.row := by
  obtain ⟨k, hk, rfl⟩ : ∃ k, flippedRow? t = some k ∧ k = m := getOrFail_eq_ok_iff.mp h
  obtain ⟨k', hk', rfl⟩ : ∃ k', flippedRow? t' = some k' ∧ k' = k := getOrFail_eq_ok_iff.mp h'
  obtain ⟨hin, hvalue⟩ := of_flippedRow?_eq_some hk
  obtain ⟨hin', hvalue'⟩ := of_flippedRow?_eq_some hk'
  rw [hlevel] at hin hvalue
  exact UInt32.toNat_inj.mp (by omega)

/-- Two tiles with the same number have the same coordinate. For the columns and the rows this is said
of tiles of one level. -/
theorem number_inj {n : TileNumber} {m : UInt64} (h : a.number g t n = .ok m)
    (h' : a.number g t' n = .ok m) (hlevel : n.axis = .level ∨ t.level = t'.level) :
    n.axis.index t = n.axis.index t' := by
  cases n with
  | column => exact UInt32.toUInt64_inj.mp ((Except.ok.inj h).trans (Except.ok.inj h').symm)
  | level =>
    obtain ⟨b, hb, hwide⟩ := map_eq_ok_iff.mp h
    obtain ⟨b', hb', hwide'⟩ := map_eq_ok_iff.mp h'
    obtain rfl := UInt32.toUInt64_inj.mp (hwide.trans hwide'.symm)
    exact Level.biased_inj hb hb'
  | reversedLevel =>
    have hwide := (Except.ok.inj h).trans (Except.ok.inj h').symm
    exact reversedLevel_inj (UInt32.toUInt64_inj.mp hwide)
  | row =>
    have hsame : t.level = t'.level := hlevel.resolve_left (by decide)
    simp only [number] at h h'
    by_cases hflips : a.flipRows = true
    · rw [if_pos hflips] at h h'
      exact flipped_inj hsame h h'
    · rw [if_neg hflips] at h h'
      exact UInt32.toUInt64_inj.mp ((Except.ok.inj h).trans (Except.ok.inj h').symm)
  | reversedColumn =>
    have hsame : t.level = t'.level := hlevel.resolve_left (by decide)
    simp only [number, hsame] at h h'
    exact inverted_inj h h'
  | reversedRow =>
    have hsame : t.level = t'.level := hlevel.resolve_left (by decide)
    simp only [number, hsame] at h h'
    exact inverted_inj h h'

/-- Two tiles that share a number of each coordinate are the same tile. -/
theorem eq_of_numbers {numbers : List TileNumber} (hall : ∀ axis, ∃ n ∈ numbers, n.axis = axis)
    (h : ∀ n ∈ numbers, ∃ m, a.number g t n = .ok m ∧ a.number g t' n = .ok m) : t = t' := by
  obtain ⟨nl, hnl, hlevel⟩ := hall .level
  obtain ⟨nc, hnc, hcolumn⟩ := hall .column
  obtain ⟨nr, hnr, hrow⟩ := hall .row
  have hindex : ∀ n ∈ numbers, n.axis = .level ∨ t.level = t'.level →
      n.axis.index t = n.axis.index t' := by
    intro n hn hfirst
    obtain ⟨m, hm, hm'⟩ := h n hn
    exact number_inj hm hm' hfirst
  -- The columns and the rows can only be compared once the levels are known to be the same.
  have hsame := hindex nl hnl (.inl hlevel)
  rw [hlevel] at hsame
  have hcolumns := hindex nc hnc (.inr hsame)
  have hrows := hindex nr hnr (.inr hsame)
  rw [hcolumn] at hcolumns
  rw [hrow] at hrows
  cases t
  cases t'
  rw [Tile.mk.injEq]
  exact ⟨hsame, hcolumns, hrows⟩

/-- The text at a place that names a number is that number, padded. -/
theorem number_of_value {n : TileNumber} {text : String}
    (h : a.value g t (String.ofList n.spelling.letters) = .ok text) :
    ∃ m, a.number g t n = .ok m ∧ a.padding.pad n.name m = text := by
  rw [n.ofList_spelling, value, n.ofName_name] at h
  exact map_eq_ok_iff.mp h

theorem isDigit_of_value {n : TileNumber} {text : String}
    (h : a.value g t (String.ofList n.spelling.letters) = .ok text) :
    ∀ c ∈ text.toList, c.isDigit = true := by
  obtain ⟨m, -, rfl⟩ := number_of_value h
  exact Padding.isDigit_of_mem_pad _ _ _

variable {l₀ l₁ l₂ l₃ : Template.Plain} {n₁ n₂ n₃ : TileNumber}

/-- The three numbers of a tile are read back from its URL. -/
theorem numbers_of_url {u : String}
    (htemplate : a.template = Template.written TileNumber.spelling
      (Template.threeFields l₀ n₁ l₁ n₂ l₂ n₃ l₃))
    (h₁ : l₁.Separates) (h₂ : l₂.Separates) (h : a.url g t = .ok u) (h' : a.url g t' = .ok u) :
    ∀ n ∈ [n₁, n₂, n₃], ∃ m, a.number g t n = .ok m ∧ a.number g t' n = .ok m := by
  rw [url, htemplate] at h h'
  obtain ⟨value, hvalue, htext⟩ := Template.exists_values_of_substitute_written _ h
  obtain ⟨value', hvalue', htext'⟩ := Template.exists_values_of_substitute_written _ h'
  have hfield : ∀ n ∈ [n₁, n₂, n₃], .field n ∈ Template.threeFields l₀ n₁ l₁ n₂ l₂ n₃ l₃ := by
    intro n hn
    simpa [Template.threeFields] using hn
  have hsame := Template.values_of_filledIn h₁ h₂
    (fun n hn => isDigit_of_value (hvalue n (hfield n hn)))
    (fun n hn => isDigit_of_value (hvalue' n (hfield n hn))) (htext.symm.trans htext')
  intro n hn
  -- Equal texts are equal numbers, however they are padded.
  obtain ⟨m, hm, hpad⟩ := number_of_value (hvalue n (hfield n hn))
  obtain ⟨m', hm', hpad'⟩ := number_of_value (hvalue' n (hfield n hn))
  have hpads : a.padding.pad n.name m = a.padding.pad n.name m' := by
    rw [hpad, hpad', hsame n hn]
  obtain rfl := Padding.pad_injective _ _ hpads
  exact ⟨m, hm, hm'⟩

end TemplateAddressing

namespace TileLoader

/-- No two tiles share a URL if the template names the level, the column and the row once each, in any
order, counted from either end, and no digit can run into the texts between them. The numbers may be
padded and the levels shifted, and rows may be flipped in any grid. -/
theorem url_injective_of_separated_numbers (o : Overlay) (l : TileLoader) (n₁ n₂ n₃ : TileNumber)
    (l₀ l₁ l₂ l₃ : Template.Plain) (t t' : Tile) (u : String) (hl : ofOverlay o = .ok l)
    (hs : o.source = .template)
    (hurl : o.url = Template.written TileNumber.spelling
      (Template.threeFields l₀ n₁ l₁ n₂ l₂ n₃ l₃))
    (haxes : [n₁.axis, n₂.axis, n₃.axis].Perm [.level, .column, .row])
    (h₁ : l₁.Separates) (h₂ : l₂.Separates) (h : l.url t = .ok u) (h' : l.url t' = .ok u) :
    t = t' := by
  obtain ⟨-, rfl⟩ := (ofOverlay_eq_ok_iff_of_template hs l).mp hl
  obtain ⟨-, -, hfilled⟩ := bind_eq_ok_iff.mp h
  obtain ⟨-, -, hfilled'⟩ := bind_eq_ok_iff.mp h'
  have hnumbers := TemplateAddressing.numbers_of_url (a := .ofFields o) hurl h₁ h₂ hfilled hfilled'
  apply TemplateAddressing.eq_of_numbers _ hnumbers
  intro axis
  have hnamed : axis ∈ [n₁, n₂, n₃].map TileNumber.axis := by
    apply haxes.mem_iff.mpr
    cases axis with
    | level => decide
    | column => decide
    | row => decide
  exact List.mem_map.mp hnamed

/-- A padded column that runs into a digit behind it, after an inverted row and a shifted level that
have the same digits. -/
theorem url_injective_of_padded_column :
    let o : Overlay :=
      { url := "t/{reverseY}-{z}.{x}7", levelBias := 2, padding := .ofList [("x", "000")] }
    ∃ l, ofOverlay o = .ok l ∧ l.url ⟨3, 12, 2⟩ = .ok "t/5-5.0127" ∧
      ∀ t', l.url t' = .ok "t/5-5.0127" → t' = ⟨3, 12, 2⟩ := by
  intro o
  have haccepted := (ofOverlay_eq_ok_iff_of_template (o := o) rfl _).mpr ⟨by decide +kernel, rfl⟩
  have hurl : (withAddressing o (.template (.ofFields o))).url ⟨3, 12, 2⟩ = .ok "t/5-5.0127" := by
    decide +kernel
  refine ⟨_, haccepted, hurl, ?_⟩
  intro t' ht'
  exact url_injective_of_separated_numbers o _ .reversedRow .level .column
    ⟨['t', '/'], by simp⟩ ⟨['-'], by simp⟩ ⟨['.'], by simp⟩ ⟨['7'], by simp⟩ t'
    ⟨3, 12, 2⟩ _ haccepted rfl (by decide +kernel) (by decide) ⟨'-', [], rfl, by decide⟩
    ⟨'.', [], rfl, by decide⟩ ht' hurl

end TileLoader

end RasterOverlay
