import Mathlib
import RasterOverlay.Command.Arguments
import RasterOverlay.Proofs.AcceptedOverlay

/-!
Reading command lines. A line is read option by option up to its first word, and what a reading
comes to depends only on the options that it takes. So a line is read alike under a table with more
options, and another word in the place of the first one leaves what stands before it.
-/

namespace RasterOverlay.Command

namespace OptionTable

/-- The arguments of one option, and the options found once it is read. -/
inductive Takes (table : OptionTable) (found : Options) : List String → Options → Prop where
  | flag {argument name : String} {long : List Char} {found' : Options}
      (hargument : argument.toList = '-' :: '-' :: long) (hlong : long ≠ [])
      (hname : splitLong long = (name, none)) (hkind : table.lookup name = some .flag)
      (hadd : found.add name .flag "" = .ok found') : Takes table found [argument] found'
  | attached {argument name value : String} {long : List Char} {kind : OptionKind}
      {found' : Options} (hargument : argument.toList = '-' :: '-' :: long) (hlong : long ≠ [])
      (hname : splitLong long = (name, some value)) (hkind : table.lookup name = some kind)
      (hvalue : kind ≠ .flag) (hadd : found.add name kind value = .ok found') :
      Takes table found [argument] found'
  | separate {argument name value : String} {long : List Char} {kind : OptionKind}
      {found' : Options} (hargument : argument.toList = '-' :: '-' :: long) (hlong : long ≠ [])
      (hname : splitLong long = (name, none)) (hkind : table.lookup name = some kind)
      (hvalue : kind ≠ .flag) (hrefuses : kind.refuses value = false)
      (hadd : found.add name kind value = .ok found') :
      Takes table found [argument, value] found'
  | letters {argument : String} {letter : Char} {letters : List Char} {found' : Options}
      (hargument : argument.toList = '-' :: letter :: letters) (hletter : letter ≠ '-')
      (hread : readLetters table found (letter :: letters) = .ok found') :
      Takes table found [argument] found'

end OptionTable

/-- An argument that is no option. -/
def IsWord (argument : String) : Prop :=
  ∀ letter letters, argument.toList ≠ '-' :: letter :: letters

/-- The options found in a line up to its first word, and what is left of the line. -/
inductive OptionTable.Reads (table : OptionTable) :
    Options → List String → Options → List String → Prop where
  | nothing (found : Options) : Reads table found [] found []
  | ended (found : Options) {argument : String} (h : argument.toList = ['-', '-']) :
      Reads table found [argument] found []
  | word (found : Options) {argument : String} (h : IsWord argument) (rest : List String) :
      Reads table found (argument :: rest) found (argument :: rest)
  | option {found found' found'' : Options} {front rest left : List String}
      (htakes : table.Takes found front found') (hrest : Reads table found' rest found'' left) :
      Reads table found (front ++ rest) found'' left

section

variable {table : OptionTable} {found found' : Options}

theorem OptionTable.Takes.readOptions_eq {front : List String}
    (h : table.Takes found front found') (rest : List String) :
    readOptions table found (front ++ rest) = readOptions table found' rest := by
  cases h with
  | @flag _ _ long _ hargument hlong hname hkind hadd =>
    obtain ⟨c, long, rfl⟩ := List.exists_cons_of_ne_nil hlong
    rw [List.singleton_append, readOptions.eq_def]
    simp only [hargument, hname, hkind, hadd]
    rfl
  | @attached _ _ _ long kind _ hargument hlong hname hkind hvalue hadd =>
    obtain ⟨c, long, rfl⟩ := List.exists_cons_of_ne_nil hlong
    rw [List.singleton_append, readOptions.eq_def]
    cases kind with
    | flag => contradiction
    | path | count | number =>
      simp only [hargument, hname, hkind, hadd]
      rfl
  | @separate _ _ _ long kind _ hargument hlong hname hkind hvalue hrefuses hadd =>
    obtain ⟨c, long, rfl⟩ := List.exists_cons_of_ne_nil hlong
    rw [List.cons_append, List.singleton_append, readOptions.eq_def]
    cases kind with
    | flag => contradiction
    | path | count | number =>
      simp only [hargument, hname, hkind, hadd, hrefuses]
      rfl
  | @letters argument letter letters _ hargument hletter hread =>
    rw [List.singleton_append, readOptions.eq_def]
    simp only [hargument]
    -- the first two patterns are those of long options, which have a second dash
    split
    · rename_i heq
      exact absurd (List.cons.inj (List.cons.inj heq).2).1 hletter
    · rename_i heq
      exact absurd (List.cons.inj (List.cons.inj heq).2).1 hletter
    · rename_i heq
      cases heq
      rw [hread]
      rfl
    · rename_i hnone
      exact absurd rfl (hnone letter letters)

theorem readOptions_word {argument : String} (h : IsWord argument) (rest : List String) :
    readOptions table found (argument :: rest) = .ok (found, argument :: rest) := by
  rw [readOptions.eq_def]
  split
  · rename_i heq
    cases heq
  · rename_i heq
    cases heq
    split
    · rename_i hchars
      exact absurd hchars (h _ _)
    · rename_i hchars
      exact absurd hchars (h _ _)
    · rename_i hchars
      exact absurd hchars (h _ _)
    · rfl

theorem readOptions_eq_ok_iff {line left : List String} :
    readOptions table found line = .ok (found', left) ↔ table.Reads found line found' left := by
  constructor
  · intro h
    -- a reader that goes on has read one option, and one that refuses the line has no result
    fun_induction readOptions table found line with
    | case1 found =>
      cases h
      exact .nothing _
    | case2 found argument rest hargument hrest =>
      cases h
      obtain rfl := List.isEmpty_iff.mp hrest
      exact .ended _ hargument
    | case3 | case4 | case5 | case8 | case9 => cases h
    | case6 found argument rest long hlong hargument name hkind hname ih =>
      obtain ⟨found₁, hadd, h⟩ := bind_eq_ok_iff.mp h
      exact .option (.flag hargument hlong hname hkind hadd) (ih found₁ h)
    | case7 found argument rest long hlong hargument name kind value hvalue hkind hname ih =>
      obtain ⟨found₁, hadd, h⟩ := bind_eq_ok_iff.mp h
      exact .option (.attached hargument hlong hname hkind hvalue hadd) (ih found₁ h)
    | case10 found argument long hlong hargument name kind hvalue hkind value rest hrefuses hname
        ih =>
      obtain ⟨found₁, hadd, h⟩ := bind_eq_ok_iff.mp h
      exact .option (.separate hargument hlong hname hkind hvalue (Bool.not_eq_true _ ▸ hrefuses)
        hadd) (ih found₁ h)
    | case11 found argument rest letter letters _ hletter hargument ih =>
      obtain ⟨found₁, hread, h⟩ := bind_eq_ok_iff.mp h
      exact .option (.letters hargument hletter hread) (ih found₁ h)
    | case12 found argument rest _ _ hword =>
      cases h
      exact .word _ hword rest
  · intro h
    induction h with
    | nothing found => rfl
    | ended found h =>
      rw [readOptions.eq_def]
      simp only [h]
      rfl
    | word found h rest => exact readOptions_word h rest
    | option htakes _ ih => rw [htakes.readOptions_eq, ih]

/-- A first word has a front that is read alike whatever word comes behind it. -/
theorem OptionTable.Reads.front {line rest : List String} {word : String}
    (h : table.Reads found line found' (word :: rest)) :
    ∃ front, line = front ++ word :: rest ∧ ∀ word' rest', IsWord word' →
      table.Reads found (front ++ word' :: rest') found' (word' :: rest') := by
  generalize hleft : word :: rest = left at h
  -- the front grows by one option at a time, and only at its end the word comes in
  induction h with
  | nothing | ended => cases hleft
  | word found h rest =>
    cases hleft
    exact ⟨[], rfl, fun word' rest' hword => .word found hword rest'⟩
  | @option _ _ _ taken _ _ htakes _ ih =>
    obtain ⟨front, rfl, hfront⟩ := ih hleft
    refine ⟨taken ++ front, by rw [List.append_assoc], fun word' rest' hword => ?_⟩
    rw [List.append_assoc]
    exact .option htakes (hfront word' rest' hword)

end

/-! ## Larger tables -/

/-- The options of one table are those of another, among others. -/
def OptionTable.Within (small large : OptionTable) : Prop :=
  ∀ name kind, small.lookup name = some kind → large.lookup name = some kind

/-- All options found are those of a table. -/
def Options.From (found : Options) (table : OptionTable) : Prop :=
  ∀ name, table.lookup name = none → found.lookup name = none

section

variable {small large table : OptionTable} {found found' : Options}

theorem OptionTable.ofLetter?_eq_some_iff {letter : Char} {name : String} :
    table.ofLetter? letter = some name ↔
      [('v', "verbose"), ('h', "help"), ('V', "version")].lookup letter = some name ∧
        (table.lookup name).isSome = true := by
  rw [OptionTable.ofLetter?, Option.filter_eq_some_iff]

theorem readLetters_cons_eq_ok_iff {letter : Char} {rest : List Char} :
    readLetters table found (letter :: rest) = .ok found' ↔
      ∃ name found₁, table.ofLetter? letter = some name ∧ found.add name .flag "" = .ok found₁ ∧
        readLetters table found₁ rest = .ok found' := by
  rw [readLetters]
  cases table.ofLetter? letter with
  | none => simp
  | some name => simp [bind_eq_ok_iff]

theorem readLetters_of_within (hwithin : small.Within large) {letters : List Char}
    (h : readLetters small found letters = .ok found') :
    readLetters large found letters = .ok found' := by
  induction letters generalizing found with
  | nil => exact h
  | cons letter rest ih =>
    obtain ⟨name, found₁, hname, hadd, h⟩ := readLetters_cons_eq_ok_iff.mp h
    obtain ⟨hletter, hknown⟩ := OptionTable.ofLetter?_eq_some_iff.mp hname
    obtain ⟨kind, hkind⟩ := Option.isSome_iff_exists.mp hknown
    have hlarge : large.ofLetter? letter = some name := by
      rw [OptionTable.ofLetter?_eq_some_iff, hwithin name kind hkind]
      exact ⟨hletter, rfl⟩
    exact readLetters_cons_eq_ok_iff.mpr ⟨name, found₁, hlarge, hadd, ih h⟩

theorem OptionTable.Takes.of_within (hwithin : small.Within large) {front : List String}
    (h : small.Takes found front found') : large.Takes found front found' := by
  cases h with
  | flag hargument hlong hname hkind hadd =>
    exact .flag hargument hlong hname (hwithin _ _ hkind) hadd
  | attached hargument hlong hname hkind hvalue hadd =>
    exact .attached hargument hlong hname (hwithin _ _ hkind) hvalue hadd
  | separate hargument hlong hname hkind hvalue hrefuses hadd =>
    exact .separate hargument hlong hname (hwithin _ _ hkind) hvalue hrefuses hadd
  | letters hargument hletter hread =>
    exact .letters hargument hletter (readLetters_of_within hwithin hread)

theorem OptionTable.Reads.of_within (hwithin : small.Within large) {line left : List String}
    (h : small.Reads found line found' left) : large.Reads found line found' left := by
  induction h with
  | nothing found => exact .nothing found
  | ended found h => exact .ended found h
  | word found h rest => exact .word found h rest
  | option htakes _ ih => exact .option (htakes.of_within hwithin) ih

theorem Options.From.add (h : found.From table) {name value : String} {kind : OptionKind}
    (hknown : (table.lookup name).isSome = true) (hadd : found.add name kind value = .ok found') :
    found'.From table := by
  unfold Options.add at hadd
  split_ifs at hadd
  cases hadd
  intro name' hnone
  rw [List.lookup_cons]
  have hne : name' ≠ name := by
    rintro rfl
    rw [hnone] at hknown
    cases hknown
  rw [beq_false_of_ne hne]
  exact h name' hnone

theorem Options.From.readLetters (h : found.From table) {letters : List Char}
    (hread : readLetters table found letters = .ok found') : found'.From table := by
  induction letters generalizing found with
  | nil =>
    cases hread
    exact h
  | cons letter rest ih =>
    obtain ⟨name, found₁, hname, hadd, hread⟩ := readLetters_cons_eq_ok_iff.mp hread
    have hknown := (OptionTable.ofLetter?_eq_some_iff.mp hname).2
    exact ih (h.add hknown hadd) hread

theorem Options.From.takes (h : found.From table) {front : List String}
    (htakes : table.Takes found front found') : found'.From table := by
  cases htakes with
  | flag _ _ _ hkind hadd | attached _ _ _ hkind _ hadd | separate _ _ _ hkind _ _ hadd =>
    exact h.add (by rw [hkind]; rfl) hadd
  | letters _ _ hread => exact h.readLetters hread

theorem Options.From.reads (h : found.From table) {line left : List String}
    (hreads : table.Reads found line found' left) : found'.From table := by
  induction hreads with
  | nothing | ended | word => exact h
  | option htakes _ ih => exact ih (h.takes htakes)

end

/-! ## The lines of the commands -/

theorem readAll_eq_ok_iff {table : OptionTable} {line : List String} {found : Options} :
    readAll table line = .ok found ↔ table.Reads [] line found [] := by
  rw [readAll, bind_eq_ok_iff]
  constructor
  · rintro ⟨⟨found', left⟩, hread, h⟩
    cases left with
    | nil =>
      cases h
      exact readOptions_eq_ok_iff.mp hread
    | cons word rest => cases h
  · intro h
    exact ⟨_, readOptions_eq_ok_iff.mpr h, rfl⟩

theorem within_fetch : OptionTable.resolve.Within .fetch := by
  intro name kind h
  -- the options of its own are none of those that both commands have
  have hoption (own : String) (hown : OptionTable.resolve.lookup own = none) : name ≠ own := by
    rintro rfl
    rw [hown] at h
    cases h
  have houtput := hoption "output" (by decide)
  have hjson := hoption "json" (by decide)
  rw [OptionTable.fetch, List.cons_append, List.cons_append, List.lookup_cons, List.lookup_cons,
    beq_false_of_ne houtput, beq_false_of_ne hjson]
  exact h

/-- A line that asks for the URL of a tile: after the options in front stands the command, and
behind it nothing but its options. -/
theorem reads_of_parse_resolve {line : List String} {a : TileArguments}
    (h : Arguments.parse line = .ok (.resolve a)) :
    ∃ found rest options, OptionTable.outer.Reads [] line found ("resolve" :: rest) ∧
      OptionTable.resolve.Reads [] rest options [] ∧ TileArguments.ofOptions options = .ok a := by
  obtain ⟨⟨found, left⟩, hread, h⟩ := bind_eq_ok_iff.mp h
  have hline := readOptions_eq_ok_iff.mp hread
  split at h
  next rest heq =>
    -- the description of an overlay takes no tile
    obtain ⟨options, -, h⟩ := bind_eq_ok_iff.mp h
    cases h
  next rest heq =>
    obtain ⟨options, hoptions, h⟩ := bind_eq_ok_iff.mp h
    obtain ⟨a', ha, h⟩ := bind_eq_ok_iff.mp h
    cases h
    cases heq
    exact ⟨found, rest, options, hline, readAll_eq_ok_iff.mp hoptions, ha⟩
  next rest heq =>
    obtain ⟨options, -, h⟩ := bind_eq_ok_iff.mp h
    obtain ⟨a', -, h⟩ := bind_eq_ok_iff.mp h
    cases h
  next => cases h
  next => cases h

theorem parse_fetch_of_reads {line rest : List String} {found options : Options} {a : TileArguments}
    (hline : OptionTable.outer.Reads [] line found ("fetch" :: rest))
    (hoptions : OptionTable.fetch.Reads [] rest options [])
    (ha : TileArguments.ofOptions options = .ok a) :
    Arguments.parse line =
      .ok (.fetch a (options.lookup "output") (options.lookup "json").isSome) := by
  rw [Arguments.parse, readOptions_eq_ok_iff.mpr hline]
  simp only [bind, Except.bind, readAll_eq_ok_iff.mpr hoptions, ha]
  rfl

theorem isWord_fetch : IsWord "fetch" := by
  intro letter letters h
  have hfirst : "fetch".toList.head? = some '-' := by rw [h]; rfl
  exact absurd hfirst (by decide)

/-- The words that choose a tile for its URL choose the same tile to be fetched. -/
theorem parse_fetch_of_parse_resolve {line : List String} {a : TileArguments}
    (h : Arguments.parse line = .ok (.resolve a)) :
    ∃ front rest, line = front ++ "resolve" :: rest ∧
      Arguments.parse (front ++ "fetch" :: rest) = .ok (.fetch a none false) := by
  obtain ⟨found, rest, options, hline, hoptions, ha⟩ := reads_of_parse_resolve h
  obtain ⟨front, rfl, hfront⟩ := hline.front
  refine ⟨front, rest, rfl, ?_⟩
  have hfrom : options.From .resolve := Options.From.reads (fun _ _ => rfl) hoptions
  have houtput : options.lookup "output" = none := hfrom "output" (by decide)
  have hjson : options.lookup "json" = none := hfrom "json" (by decide)
  rw [parse_fetch_of_reads (hfront "fetch" rest isWord_fetch) (hoptions.of_within within_fetch) ha,
    houtput, hjson]
  rfl

end RasterOverlay.Command
