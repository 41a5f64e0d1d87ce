import Mathlib
import RasterOverlay.Proofs.DescribedOverlay

/-!
The rectangles of an accepted overlay. A rectangle is refused if a maximum is below its minimum,
which nothing is that is not a number. So the edges of an accepted rectangle are in order exactly if
all of them are numbers, and only then does the rectangle contain its corners.
-/

namespace RasterOverlay

/-! ## The order of doubles

Two doubles are compared unless one of them is not a number; then no comparison holds. -/

namespace Number

open Float.Model (UnpackedFloat)

theorem compare_sign_swap (s t : UnpackedFloat.Sign) : (compare s t).swap = compare t s := by
  cases s <;> cases t <;> rfl

theorem compare_swap (a b : UnpackedFloat) : (a.compare b).map Ordering.swap = b.compare a := by
  fun_cases UnpackedFloat.compare a b with
  | case1 => cases b <;> rfl
  | _ =>
    simp_all [UnpackedFloat.compare, Ordering.swap_then, compare_sign_swap, Nat.compare_swap,
      Int.compare_swap]

theorem compare_eq_none_iff (a b : UnpackedFloat) :
    a.compare b = none ↔ a.isNaN = true ∨ b.isNaN = true := by
  simp only [UnpackedFloat.isNaN_iff]
  fun_cases UnpackedFloat.compare a b <;> simp_all

/-- How two doubles compare, if they do. -/
def order? (x y : Float) : Option Ordering := x.toModel.unpack.compare y.toModel.unpack

theorem order?_swap (x y : Float) : (order? x y).map Ordering.swap = order? y x :=
  compare_swap _ _

theorem order?_eq_none_iff (x y : Float) :
    order? x y = none ↔ x.isNaN = true ∨ y.isNaN = true :=
  compare_eq_none_iff _ _

theorem le_iff_order? (x y : Float) : x ≤ y ↔ ∃ o, order? x y = some o ∧ o.isLE = true := by
  rw [← Option.any_eq_true]
  show decide (x.toModel ≤ y.toModel) = true ↔ _
  rw [decide_eq_true_iff]
  exact Iff.rfl

theorem lt_iff_order? (x y : Float) : x < y ↔ order? x y = some .lt := by
  rw [← beq_iff_eq]
  show decide (x.toModel < y.toModel) = true ↔ _
  rw [decide_eq_true_iff]
  exact Iff.rfl

/-- Of two numbers, one is at most the other exactly if the other is not below it. -/
theorem le_iff_not_lt (x y : Float) :
    x ≤ y ↔ (x.isNaN = false ∧ y.isNaN = false) ∧ ¬ y < x := by
  have hnumbers : (x.isNaN = false ∧ y.isNaN = false) ↔ order? x y ≠ none := by
    rw [ne_eq, order?_eq_none_iff, not_or, Bool.not_eq_true, Bool.not_eq_true]
  rw [le_iff_order?, lt_iff_order?, hnumbers, ← order?_swap x y]
  cases order? x y with
  | none => simp
  | some o => cases o <;> simp

theorem lt_irrefl (x : Float) : ¬ x < x := by
  rw [lt_iff_order?]
  intro h
  have hswap := order?_swap x x
  rw [h] at hswap
  cases hswap

theorem le_self_iff (x : Float) : x ≤ x ↔ x.isNaN = false := by
  rw [le_iff_not_lt, and_self, and_iff_left (lt_irrefl x)]

end Number

/-! ## Rectangles -/

namespace Rectangle

/-- Neither minimum is beyond its maximum. -/
def InOrder (r : Rectangle Float) : Prop := r.minX ≤ r.maxX ∧ r.minY ≤ r.maxY

instance (r : Rectangle Float) : Decidable r.InOrder := inferInstanceAs (Decidable (_ ∧ _))

def corners (r : Rectangle Float) : List (Float × Float) :=
  [(r.minX, r.minY), (r.minX, r.maxY), (r.maxX, r.minY), (r.maxX, r.maxY)]

def HoldsCorners (r : Rectangle Float) : Prop :=
  ∀ corner ∈ r.corners, r.contains corner.1 corner.2 = true

instance (r : Rectangle Float) : Decidable r.HoldsCorners :=
  inferInstanceAs (Decidable (∀ corner ∈ r.corners, _))

def EdgesAreNumbers (r : Rectangle Float) : Prop := ∀ edge ∈ Value.edges r, edge.isNaN = false

instance (r : Rectangle Float) : Decidable r.EdgesAreNumbers :=
  inferInstanceAs (Decidable (∀ edge ∈ Value.edges r, _))

theorem contains_iff (r : Rectangle Float) (x y : Float) :
    r.contains x y = true ↔ (r.minX ≤ x ∧ x ≤ r.maxX) ∧ r.minY ≤ y ∧ y ≤ r.maxY := by
  simp only [contains, Coordinate.atMost, Bool.and_eq_true, decide_eq_true_eq, and_assoc]

theorem edgesAreNumbers_of_inOrder {r : Rectangle Float} (h : r.InOrder) : r.EdgesAreNumbers := by
  obtain ⟨⟨hminX, hmaxX⟩, -⟩ := (Number.le_iff_not_lt _ _).mp h.1
  obtain ⟨⟨hminY, hmaxY⟩, -⟩ := (Number.le_iff_not_lt _ _).mp h.2
  simp only [EdgesAreNumbers, Value.edges, List.forall_mem_cons]
  exact ⟨hminX, hminY, hmaxX, hmaxY, List.forall_mem_nil _⟩

/-- A corner lies on two edges, so all that is asked is that the other two are not passed. -/
theorem holdsCorners_iff_inOrder (r : Rectangle Float) : r.HoldsCorners ↔ r.InOrder := by
  constructor
  · intro h
    obtain ⟨⟨-, hx⟩, -, hy⟩ := (r.contains_iff _ _).mp (h (r.minX, r.minY) (by simp [corners]))
    exact ⟨hx, hy⟩
  · intro h
    have hself : ∀ edge ∈ Value.edges r, edge ≤ edge := fun edge hedge =>
      (Number.le_self_iff edge).mpr (edgesAreNumbers_of_inOrder h edge hedge)
    simp only [Value.edges, List.forall_mem_cons] at hself
    obtain ⟨hminX, hminY, hmaxX, hmaxY, -⟩ := hself
    obtain ⟨hx, hy⟩ := h
    simp only [HoldsCorners, corners, List.forall_mem_cons, contains_iff]
    exact ⟨⟨⟨hminX, hx⟩, hminY, hy⟩, ⟨⟨hminX, hx⟩, hy, hmaxY⟩, ⟨⟨hx, hmaxX⟩, hminY, hy⟩,
      ⟨⟨hx, hmaxX⟩, hy, hmaxY⟩, List.forall_mem_nil _⟩

/-- What is not refused is in order if it can be compared at all. -/
theorem inOrder_iff_of_not_reversed {r : Rectangle Float} (h : ¬ Value.Reversed r) :
    r.InOrder ↔ r.EdgesAreNumbers := by
  refine ⟨edgesAreNumbers_of_inOrder, fun hnumbers => ?_⟩
  simp only [EdgesAreNumbers, Value.edges, List.forall_mem_cons] at hnumbers
  obtain ⟨hminX, hminY, hmaxX, hmaxY, -⟩ := hnumbers
  obtain ⟨hx, hy⟩ := not_or.mp h
  exact ⟨(Number.le_iff_not_lt _ _).mpr ⟨⟨hminX, hmaxX⟩, hx⟩,
    (Number.le_iff_not_lt _ _).mpr ⟨⟨hminY, hmaxY⟩, hy⟩⟩

end Rectangle

/-! ## Accepted overlays -/

namespace Overlay

open Ini (Document)

/-- The rectangles that a description may give: what is covered, and what the grid lies over. -/
def rectangles (o : Overlay) : List (Rectangle Float) :=
  o.coverage.toList ++ (o.grid.map Grid.extent).toList

theorem not_reversed_of_hasValue {d : Document} {heading key : String} {r : Rectangle Float}
    (h : d.HasValue heading key .rectangle (some r)) : ¬ Value.Reversed r := by
  obtain ⟨text, -, hmeans⟩ := h
  exact hmeans.2

/-- Both rectangles of a description are read by the reader that refuses reversed ones. -/
theorem Describes.not_reversed {d : Document} {o : Overlay} (h : Describes d o) :
    ∀ r ∈ o.rectangles, ¬ Value.Reversed r := by
  intro r hr
  rw [rectangles, List.mem_append, Option.mem_toList, Option.mem_toList] at hr
  rcases hr with hcoverage | hextent
  · have hvalue := h.coverage
    rw [Option.mem_def.mp hcoverage] at hvalue
    exact not_reversed_of_hasValue hvalue
  · obtain ⟨grid, hgrid, rfl⟩ := Option.map_eq_some_iff.mp hextent
    have hdescribed := h.grid
    rw [hgrid] at hdescribed
    obtain ⟨extent, columns, rows, hvalue, -, -, rfl⟩ := hdescribed
    exact not_reversed_of_hasValue hvalue

theorem describes_of_ofText {text : String} {o : Overlay} (h : ofText text = .ok o) :
    ∃ d, Describes d o := by
  rw [ofText] at h
  split at h
  next d hd => exact ⟨d, (ofDocument_eq_ok_iff.mp h).2.1⟩
  next e he => cases h

/-- Of the rectangles of an accepted text those are in order, and contain their corners, that have
numbers for all their edges. -/
theorem rectangles_in_order_iff (text : String) (o : Overlay) (h : ofText text = .ok o)
    (r : Rectangle Float) (hr : r ∈ o.rectangles) :
    (r.InOrder ∧ r.HoldsCorners ↔ r.EdgesAreNumbers) ∧ (r.HoldsCorners ↔ r.InOrder) := by
  obtain ⟨d, hd⟩ := describes_of_ofText h
  rw [r.holdsCorners_iff_inOrder, and_self,
    Rectangle.inOrder_iff_of_not_reversed (hd.not_reversed r hr)]
  exact ⟨Iff.rfl, Iff.rfl⟩

/-- What is read from a text, if it passes a test. -/
theorem exists_rectangle_of_any (text : String) (test : Rectangle Float → Bool)
    (h : (ofText text).toOption.any (fun o => o.rectangles.any test) = true) :
    ∃ o r, ofText text = .ok o ∧ r ∈ o.rectangles ∧ test r = true := by
  cases hread : ofText text with
  | error e =>
    rw [hread] at h
    cases h
  | ok o =>
    rw [hread] at h
    obtain ⟨r, hr, htest⟩ := List.any_eq_true.mp h
    exact ⟨o, r, rfl, hr, htest⟩

/-- Infinite edges are numbers. -/
theorem rectangles_in_order_to_infinity :
    ∃ o r, ofText "[overlay]\nurl=u\ncoverage_rectangle=-inf,0,inf,1" = .ok o ∧
      r ∈ o.rectangles ∧ r.EdgesAreNumbers ∧ r.InOrder ∧ r.HoldsCorners := by
  obtain ⟨o, r, hread, hr, htest⟩ := exists_rectangle_of_any
    "[overlay]\nurl=u\ncoverage_rectangle=-inf,0,inf,1" (fun r => decide r.EdgesAreNumbers)
    (by decide +kernel)
  have hnumbers := of_decide_eq_true htest
  have hordered := (rectangles_in_order_iff _ o hread r hr).1.mpr hnumbers
  exact ⟨o, r, hread, hr, hnumbers, hordered⟩

/-- A rectangle with an edge that is not a number is accepted, and it contains none of its
corners. -/
theorem rectangle_out_of_order :
    ∃ o r, ofText "[overlay]\nurl=u\ncoverage_rectangle=nan,0,1,1" = .ok o ∧
      r ∈ o.rectangles ∧ ¬ r.InOrder ∧
      ∀ corner ∈ r.corners, r.contains corner.1 corner.2 = false := by
  obtain ⟨o, r, hread, hr, htest⟩ := exists_rectangle_of_any
    "[overlay]\nurl=u\ncoverage_rectangle=nan,0,1,1"
    (fun r => decide (¬ r.InOrder ∧ ∀ corner ∈ r.corners, r.contains corner.1 corner.2 = false))
    (by decide +kernel)
  exact ⟨o, r, hread, hr, of_decide_eq_true htest⟩

end Overlay

end RasterOverlay
