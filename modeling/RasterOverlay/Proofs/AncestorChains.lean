import Mathlib
import RasterOverlay.Proofs.QuadtreeLevels

/-!
The tiles above a tile. Where counts are held they no longer double from level to level, but an index
below a held count still has its half below the count of the level above. So the parent of a tile of
the grid is one of the grid on all levels, and the chain of parents goes up one level at a time until
it ends at a root tile.
-/

namespace RasterOverlay

namespace Tile

/-- The ancestors of a tile, the nearest first, up to one that has no parent. -/
inductive Ancestry : Tile → List Tile → Prop where
  | root {t : Tile} (h : t.parent? = none) : Ancestry t []
  | up {t p : Tile} {chain : List Tile} (h : t.parent? = some p) (rest : Ancestry p chain) :
      Ancestry t (p :: chain)

/-- The tile `a` lies `k` levels above the tile `t`. -/
structure Above (k : ℕ) (t a : Tile) : Prop where
  level : a.level.toNat + k = t.level.toNat
  column : a.column.toNat = t.column.toNat / 2 ^ k
  row : a.row.toNat = t.row.toNat / 2 ^ k

/-! ## One step up -/

theorem parent?_eq_none_iff (t : Tile) : t.parent? = none ↔ t.level = 0 := by
  rw [parent?]
  by_cases hroot : t.level = 0
  · simp [hroot]
  · simp [hroot]

theorem toNat_level_of_parent? {t p : Tile} (h : t.parent? = some p) :
    t.level.toNat = p.level.toNat + 1 := by
  obtain ⟨hroot, hlevel, -⟩ := (parent?_eq_some_iff t p).mp h
  have hpos : t.level.toNat ≠ 0 := fun hzero => hroot (UInt32.toNat_inj.mp hzero)
  have hword := p.level.toNat_lt
  have hsum : t.level.toNat = (p.level.toNat + 1) % 2 ^ 32 := by
    rw [hlevel, UInt32.toNat_add, UInt32.toNat_one]
  omega

theorem Above.refl (t : Tile) : Above 0 t t := by
  refine ⟨rfl, ?_, ?_⟩
  · rw [pow_zero, Nat.div_one]
  · rw [pow_zero, Nat.div_one]

theorem Above.of_parent? {k : ℕ} {t p a : Tile} (h : t.parent? = some p) (ha : Above k p a) :
    Above (k + 1) t a := by
  obtain ⟨-, -, hcolumn, hrow⟩ := (parent?_eq_some_iff t p).mp h
  have hlevel := toNat_level_of_parent? h
  have halevel := ha.level
  refine ⟨by omega, ?_, ?_⟩
  · rw [ha.column, ← hcolumn, Nat.div_div_eq_div_mul, ← pow_succ']
  · rw [ha.row, ← hrow, Nat.div_div_eq_div_mul, ← pow_succ']

/-! ## The whole chain -/

namespace Ancestry

variable {t : Tile} {chain : List Tile}

theorem unique (h : Ancestry t chain) {chain' : List Tile} (h' : Ancestry t chain') :
    chain' = chain := by
  induction h generalizing chain' with
  | root hnone =>
    cases h' with
    | root => rfl
    | up hsome => exact absurd hnone (by rw [hsome]; exact Option.some_ne_none _)
  | up hsome _ ih =>
    cases h' with
    | root hnone => exact absurd hnone (by rw [hsome]; exact Option.some_ne_none _)
    | up hsome' hrest' =>
      rw [hsome, Option.some.injEq] at hsome'
      subst hsome'
      rw [ih hrest']

theorem length_eq (h : Ancestry t chain) : chain.length = t.level.toNat := by
  induction h with
  | root hnone =>
    rw [(parent?_eq_none_iff _).mp hnone]
    rfl
  | up hsome _ ih => rw [List.length_cons, ih, toNat_level_of_parent? hsome]

/-- The tile in the `k`-th place, counted from the tile itself, is that many levels above it. -/
theorem above (h : Ancestry t chain) {k : ℕ} {a : Tile} (ha : (t :: chain)[k]? = some a) :
    Above k t a := by
  induction h generalizing k with
  | @root t hnone =>
    cases k with
    | zero =>
      rw [List.getElem?_cons_zero, Option.some.injEq] at ha
      exact ha ▸ Above.refl t
    | succ k => cases ha
  | @up t p chain hsome _ ih =>
    cases k with
    | zero =>
      rw [List.getElem?_cons_zero, Option.some.injEq] at ha
      exact ha ▸ Above.refl t
    | succ k => exact (ih ha).of_parent? hsome

theorem ancestors_eq (h : Ancestry t chain) (limit : ℕ) : t.ancestors limit = chain.take limit := by
  induction h generalizing limit with
  | root hnone =>
    rw [ancestors.eq_def, hnone, List.take_nil]
    cases limit <;> rfl
  | up hsome _ ih =>
    rw [ancestors.eq_def, hsome]
    cases limit with
    | zero => rfl
    | succ limit => rw [List.take_succ_cons, ← ih limit]

end Ancestry

theorem exists_ancestry (t : Tile) : ∃ chain, Ancestry t chain := by
  -- the induction is on the level, which falls by one with each parent
  induction hn : t.level.toNat generalizing t with
  | zero => exact ⟨[], .root ((parent?_eq_none_iff t).mpr (UInt32.toNat_inj.mp hn))⟩
  | succ n ih =>
    cases hp : t.parent? with
    | none =>
      rw [(parent?_eq_none_iff t).mp hp] at hn
      cases hn
    | some p =>
      have hlevel := toNat_level_of_parent? hp
      obtain ⟨chain, hchain⟩ := ih p (by omega)
      exact ⟨p :: chain, .up hp hchain⟩

end Tile

namespace Grid

variable {α : Type} {g : Grid α} {t p : Tile}

/-- The half of an index below a count is below the count of the level above, held or not. -/
theorem half_lt_countAt {roots level i : ℕ} (h : i < min (roots * 2 ^ (level + 1)) (2 ^ 32 - 1)) :
    i / 2 < min (roots * 2 ^ level) (2 ^ 32 - 1) := by
  rw [pow_succ, ← mul_assoc] at h
  omega

theorem contains_of_parent? (h : t.parent? = some p) (hin : g.contains t = true) :
    g.contains p = true := by
  obtain ⟨-, -, hcolumn, hrow⟩ := (Tile.parent?_eq_some_iff t p).mp h
  rw [contains_iff, columnsAt, rowsAt, toNat_countAt, toNat_countAt] at hin ⊢
  rw [Tile.toNat_level_of_parent? h] at hin
  rw [← hcolumn, ← hrow]
  exact ⟨half_lt_countAt hin.1, half_lt_countAt hin.2⟩

theorem contains_of_ancestry {chain : List Tile} (h : t.Ancestry chain)
    (hin : g.contains t = true) : ∀ a ∈ t :: chain, g.contains a = true := by
  induction h with
  | root _ => exact List.forall_mem_singleton.mpr hin
  | up hp _ ih => exact List.forall_mem_cons.mpr ⟨hin, ih (contains_of_parent? hp hin)⟩

/-- The tiles of level zero in the grid are the root tiles. -/
theorem isRoot_of_contains (hlevel : t.level = 0) (hin : g.contains t = true) :
    t.column < g.rootColumns ∧ t.row < g.rootRows := by
  have hroots (roots : UInt32) : (countAt roots 0).toNat = roots.toNat := by
    have hword := roots.toNat_lt
    rw [toNat_countAt, UInt32.toNat_zero, pow_zero, mul_one]
    omega
  rw [contains_iff, columnsAt, rowsAt, hlevel, hroots, hroots] at hin
  exact ⟨UInt32.lt_iff_toNat_lt.mpr hin.1, UInt32.lt_iff_toNat_lt.mpr hin.2⟩

end Grid

/-- A tile of the grid, of whatever level, has one chain of ancestors, with one tile for each level
above its own. The tile in the `k`-th place, counted from the tile itself, has its indices halved `k`
times and lies in the grid; the last one is a root tile. -/
theorem ancestors_stay_inside {α : Type} (g : Grid α) (t : Tile) (hin : g.contains t = true) :
    ∃ chain, (∀ chain', t.Ancestry chain' ↔ chain' = chain) ∧
      (∀ limit, t.ancestors limit = chain.take limit) ∧
      chain.length = t.level.toNat ∧
      (∀ k a, (t :: chain)[k]? = some a → t.Above k a ∧ g.contains a = true) ∧
      ∃ r, (t :: chain).getLast? = some r ∧ r.level = 0 ∧ r.column < g.rootColumns ∧
        r.row < g.rootRows := by
  obtain ⟨chain, hchain⟩ := t.exists_ancestry
  have hplace : ∀ k a, (t :: chain)[k]? = some a → t.Above k a ∧ g.contains a = true :=
    fun k a ha => ⟨hchain.above ha,
      Grid.contains_of_ancestry hchain hin a (List.mem_of_getElem? ha)⟩
  refine ⟨chain, fun chain' => ⟨hchain.unique, fun h => h ▸ hchain⟩, hchain.ancestors_eq,
    hchain.length_eq, hplace, ?_⟩
  -- the last place is as many levels up as there are
  have hlast := List.getLast?_eq_getElem? (l := t :: chain)
  rw [List.length_cons, Nat.add_sub_cancel, hchain.length_eq] at hlast
  obtain ⟨r, hr⟩ :=
    Option.isSome_iff_exists.mp (List.getLast?_isSome.mpr (List.cons_ne_nil t chain))
  obtain ⟨habove, hrin⟩ := hplace _ r (hlast ▸ hr)
  have hlevel : r.level.toNat = 0 := Nat.add_eq_right.mp habove.level
  have hzero : r.level = 0 := UInt32.toNat_inj.mp hlevel
  exact ⟨r, hr, hzero, Grid.isRoot_of_contains hzero hrin⟩

/-- The columns of level 31 are held, and those of level 30 are not. -/
theorem ancestors_stay_inside_below_a_held_count :
    let g : Grid ℚ := .ofRoots ⟨0, 0, 3, 1⟩ 3 1
    let t : Tile := ⟨31, 4294967294, 5⟩
    g.contains t = true ∧ g.columnsAt 31 = 4294967295 ∧ g.columnsAt 30 = 3221225472 ∧
      ∃ chain, t.Ancestry chain ∧ chain.length = 31 ∧
        chain.take 2 = [⟨30, 2147483647, 2⟩, ⟨29, 1073741823, 1⟩] ∧
        g.contains ⟨30, 2147483647, 2⟩ = true := by
  intro g t
  have hin : g.contains t = true := by decide +kernel
  obtain ⟨chain, hunique, hlimit, hlength, hplace, -⟩ := ancestors_stay_inside g t hin
  have htwo : chain.take 2 = [⟨30, 2147483647, 2⟩, ⟨29, 1073741823, 1⟩] := by
    rw [← hlimit 2]
    decide +kernel
  have hfirst : (t :: chain)[1]? = some ⟨30, 2147483647, 2⟩ := by
    have := congrArg (·[0]?) htwo
    simpa using this
  exact ⟨hin, by decide +kernel, by decide +kernel, chain, (hunique chain).mpr rfl, hlength, htwo,
    (hplace 1 _ hfirst).2⟩

end RasterOverlay
