import Mathlib.Algebra.Order.Field.Basic
import Mathlib.Algebra.Order.Ring.Rat
import Mathlib.Tactic.FieldSimp
import Mathlib.Tactic.Linarith
import Mathlib.Tactic.Positivity

/-!
# The geometry of a line chart

`LineChart::updatePaintNode` over exact rationals: a range from the values or from the
settings, and one vertex for each value. A division by zero gives no geometry.
-/

namespace HWPanel.Client

/-- The quotient; `none` is a division by zero. -/
def divide (a b : ℚ) : Option ℚ := if b = 0 then none else some (a / b)

/-- `qFuzzyCompare`. -/
def QFuzzyCompare (a b : ℚ) : Prop := |a - b| * 10 ^ 12 ≤ min |a| |b|

instance (a b : ℚ) : Decidable (QFuzzyCompare a b) := inferInstanceAs (Decidable (_ ≤ _))

/-- `std::clamp` to the unit interval. -/
def clampUnit (t : ℚ) : ℚ := if t < 0 then 0 else if 1 < t then 1 else t

structure Point2D where
  x : ℚ
  y : ℚ

structure LineChart where
  values : List ℚ
  minValue : ℚ := 0
  maxValue : ℚ := 100
  autoRange : Bool := false
  width : ℚ
  height : ℚ

namespace LineChart

variable (self : LineChart)

/-- The loop over the values, from the first of them. -/
def bounds : ℚ × ℚ :=
  let first := self.values.headD 0
  self.values.foldl (fun range d => (min range.1 d, max range.2 d)) (first, first)

/-- `lo` and `hi` when the vertices are set. -/
def range : ℚ × ℚ :=
  let (lo, hi) :=
    if self.autoRange then
      let (lo, hi) := self.bounds
      if QFuzzyCompare lo hi then (lo - 1, hi + 1) else (lo, hi)
    else (self.minValue, self.maxValue)
  if ¬lo < hi then (lo, lo + 1) else (lo, hi)

/-- The vertices of the node. -/
def updatePaintNode : Option (List Point2D) :=
  let count := self.values.length
  if count < 2 ∨ self.width ≤ 0 ∨ self.height ≤ 0 then some []
  else do
    let (lo, hi) := self.range
    let stepX ← divide self.width ((count : ℚ) - 1)
    self.values.zipIdx.mapM fun (d, i) => do
      let t ← divide (d - lo) (hi - lo)
      return ⟨stepX * i, self.height * (1 - clampUnit t)⟩

end LineChart

/-- The loop's bounds lie outside its start and every value. -/
theorem foldl_bounds (values : List ℚ) (start : ℚ × ℚ) :
    (values.foldl (fun range d => (min range.1 d, max range.2 d)) start).1 ≤ start.1 ∧
      start.2 ≤ (values.foldl (fun range d => (min range.1 d, max range.2 d)) start).2 ∧
      ∀ d ∈ values,
        (values.foldl (fun range d => (min range.1 d, max range.2 d)) start).1 ≤ d ∧
          d ≤ (values.foldl (fun range d => (min range.1 d, max range.2 d)) start).2 := by
  induction values generalizing start with
  | nil => exact ⟨le_refl _, le_refl _, fun d member => absurd member List.not_mem_nil⟩
  | cons value values ih =>
      obtain ⟨low, high, within⟩ := ih (min start.1 value, max start.2 value)
      refine ⟨low.trans (min_le_left _ _), (le_max_left _ _).trans high, fun d member => ?_⟩
      rcases List.mem_cons.mp member with rfl | later
      · exact ⟨low.trans (min_le_right _ _), (le_max_right _ _).trans high⟩
      · exact within d later

theorem qFuzzyCompare_self (a : ℚ) : QFuzzyCompare a a := by
  rw [QFuzzyCompare, sub_self, abs_zero, zero_mul, min_self]
  exact abs_nonneg a

namespace LineChart

variable {self : LineChart}

/-- The range is never empty, whatever the values and the settings. -/
theorem range_lt (self : LineChart) : self.range.1 < self.range.2 := by
  rw [range]
  split
  rename_i lo hi chosen
  split
  case isTrue => exact lt_add_one lo
  case isFalse notEmpty => exact not_not.mp notEmpty

/-- The range taken from the values holds every value. -/
theorem mem_range (autoRange : self.autoRange = true) {d : ℚ} (member : d ∈ self.values) :
    self.range.1 ≤ d ∧ d ≤ self.range.2 := by
  obtain ⟨low, high, within⟩ := foldl_bounds self.values
    (self.values.headD 0, self.values.headD 0)
  have bounded : self.bounds.1 ≤ self.bounds.2 := low.trans high
  have inside : self.bounds.1 ≤ d ∧ d ≤ self.bounds.2 := within d member
  rw [range, if_pos autoRange]
  by_cases fuzzy : QFuzzyCompare self.bounds.1 self.bounds.2
  · have wide : self.bounds.1 - 1 < self.bounds.2 + 1 := by linarith
    simp only [fuzzy, if_true, wide, not_true_eq_false, if_false]
    exact ⟨by linarith [inside.1], by linarith [inside.2]⟩
  · have apart : self.bounds.1 < self.bounds.2 := by
      refine lt_of_le_of_ne bounded fun same => fuzzy ?_
      rw [same]
      exact qFuzzyCompare_self _
    simp only [fuzzy, if_false, apart, not_true_eq_false]
    exact inside

end LineChart

theorem clampUnit_mem (t : ℚ) : 0 ≤ clampUnit t ∧ clampUnit t ≤ 1 := by
  rw [clampUnit]
  split
  · exact ⟨le_refl 0, zero_le_one⟩
  · split
    · exact ⟨zero_le_one, le_refl 1⟩
    · exact ⟨not_lt.mp ‹_›, not_lt.mp ‹_›⟩

theorem clampUnit_of_mem {t : ℚ} (low : 0 ≤ t) (high : t ≤ 1) : clampUnit t = t := by
  rw [clampUnit, if_neg (not_lt.mpr low), if_neg (not_lt.mpr high)]

/-- The clamp keeps the order. -/
theorem clampUnit_mono {t u : ℚ} (le : t ≤ u) : clampUnit t ≤ clampUnit u := by
  by_cases below : t < 0
  · rw [clampUnit, if_pos below]
    exact (clampUnit_mem u).1
  · by_cases above : 1 < u
    · have top : clampUnit u = 1 := by
        rw [clampUnit, if_neg (by linarith), if_pos above]
      rw [top]
      exact (clampUnit_mem t).2
    · rw [clampUnit_of_mem (not_lt.mp below) (by linarith),
        clampUnit_of_mem (by linarith) (not_lt.mp above)]
      exact le

namespace LineChart

variable (self : LineChart)

/-- Where a value stands in the range, before the clamp. -/
def position (d : ℚ) : ℚ := (d - self.range.1) / (self.range.2 - self.range.1)

def vertex (d : ℚ) (i : Nat) : Point2D where
  x := self.width / ((self.values.length : ℚ) - 1) * i
  y := self.height * (1 - clampUnit (self.position d))

/-- What is owed of the vertices of a chart. -/
structure Drawn (chart : LineChart) (vertices : List Point2D) : Prop where
  count : vertices.length = chart.values.length
  leftmost : ∀ v, vertices.head? = some v → v.x = 0
  rightmost : ∀ v, vertices.getLast? = some v → v.x = chart.width
  increasing : ∀ (i j : Nat) (v u : Point2D), i < j →
    vertices[i]? = some v → vertices[j]? = some u → v.x < u.x
  inside : ∀ v ∈ vertices, 0 ≤ v.y ∧ v.y ≤ chart.height
  placed : ∀ (i : Nat) (d : ℚ) (v : Point2D), chart.values[i]? = some d →
    vertices[i]? = some v → v.y = chart.height *
      (1 - clampUnit ((d - chart.range.1) / (chart.range.2 - chart.range.1)))
  ordered : ∀ (i j : Nat) (d e : ℚ) (v u : Point2D), chart.values[i]? = some d →
    chart.values[j]? = some e → d ≤ e → vertices[i]? = some v → vertices[j]? = some u →
      u.y ≤ v.y
  unclipped : chart.autoRange = true → ∀ (i : Nat) (d : ℚ) (v : Point2D),
    chart.values[i]? = some d → vertices[i]? = some v →
      v.y = chart.height * (1 - (d - chart.range.1) / (chart.range.2 - chart.range.1))

variable {self : LineChart}

theorem mapM_some {α β : Type} {f : α → Option β} {g : α → β} (all : ∀ a, f a = some (g a))
    (entries : List α) : entries.mapM f = some (entries.map g) := by
  induction entries with
  | nil => rfl
  | cons a entries ih =>
      rw [List.mapM_cons, all, ih]
      rfl

theorem steps_pos (several : 2 ≤ self.values.length) : 0 < (self.values.length : ℚ) - 1 := by
  have atLeast : (2 : ℚ) ≤ self.values.length := by exact_mod_cast several
  linarith

theorem span_pos (self : LineChart) : 0 < self.range.2 - self.range.1 :=
  sub_pos.mpr self.range_lt

/-- No division by zero is met: there are two values, and the range is not empty. -/
theorem updatePaintNode_eq (several : 2 ≤ self.values.length) (wide : 0 < self.width)
    (high : 0 < self.height) :
    self.updatePaintNode =
      some (self.values.zipIdx.map fun entry => self.vertex entry.1 entry.2) := by
  have steps : (self.values.length : ℚ) - 1 ≠ 0 := (steps_pos several).ne'
  have span : self.range.2 - self.range.1 ≠ 0 := self.span_pos.ne'
  have drawn : ¬(self.values.length < 2 ∨ self.width ≤ 0 ∨ self.height ≤ 0) := by
    rintro (few | flat | low)
    · omega
    · linarith
    · linarith
  rw [updatePaintNode, if_neg drawn]
  simp only [divide, if_neg steps, if_neg span]
  exact mapM_some (fun entry => rfl) _

theorem vertices_getElem? (i : Nat) :
    (self.values.zipIdx.map fun entry => self.vertex entry.1 entry.2)[i]? =
      self.values[i]?.map fun d => self.vertex d i := by
  rw [List.getElem?_map, List.getElem?_zipIdx, Option.map_map]
  simp [Function.comp_def]

/-- The vertex at an index is the one of the value there. -/
theorem vertex_of_getElem? {i : Nat} {d : ℚ} {v : Point2D} (atI : self.values[i]? = some d)
    (vAt : (self.values.zipIdx.map fun entry => self.vertex entry.1 entry.2)[i]? = some v) :
    v = self.vertex d i := by
  rw [vertices_getElem?, atI] at vAt
  exact (Option.some.inj vAt).symm

theorem position_mono (self : LineChart) {d e : ℚ} (le : d ≤ e) :
    self.position d ≤ self.position e :=
  div_le_div_of_nonneg_right (by linarith) self.span_pos.le

/-- A value in the range stands in the unit interval. -/
theorem clampUnit_position {d : ℚ} (low : self.range.1 ≤ d) (high : d ≤ self.range.2) :
    clampUnit (self.position d) = self.position d := by
  apply clampUnit_of_mem
  · exact div_nonneg (by linarith) self.span_pos.le
  · exact (div_le_one self.span_pos).mpr (by linarith)

theorem drawn_vertices (several : 2 ≤ self.values.length) (wide : 0 < self.width)
    (high : 0 < self.height) :
    Drawn self (self.values.zipIdx.map fun entry => self.vertex entry.1 entry.2) where
  count := by rw [List.length_map, List.length_zipIdx]
  leftmost v first := by
    rw [List.head?_eq_getElem?, vertices_getElem?] at first
    obtain ⟨d, -, rfl⟩ := Option.map_eq_some_iff.mp first
    simp [vertex]
  rightmost v last := by
    rw [List.getLast?_eq_getElem?, vertices_getElem?] at last
    obtain ⟨d, -, rfl⟩ := Option.map_eq_some_iff.mp last
    have lastIndex : ((self.values.length - 1 : ℕ) : ℚ) = (self.values.length : ℚ) - 1 := by
      rw [Nat.cast_sub (by omega), Nat.cast_one]
    simp only [vertex, List.length_map, List.length_zipIdx]
    rw [lastIndex, div_mul_cancel₀ _ (steps_pos several).ne']
  increasing i j v u before atI atJ := by
    rw [vertices_getElem?] at atI atJ
    obtain ⟨d, -, rfl⟩ := Option.map_eq_some_iff.mp atI
    obtain ⟨e, -, rfl⟩ := Option.map_eq_some_iff.mp atJ
    exact mul_lt_mul_of_pos_left (Nat.cast_lt.mpr before)
      (div_pos wide (steps_pos several))
  inside v member := by
    obtain ⟨entry, -, rfl⟩ := List.mem_map.mp member
    obtain ⟨low, top⟩ := clampUnit_mem (self.position entry.1)
    exact ⟨mul_nonneg high.le (by linarith), mul_le_of_le_one_right high.le (by linarith)⟩
  placed i d v atI vAt := by
    rw [vertex_of_getElem? atI vAt]
    rfl
  ordered i j d e v u atI atJ le vAt uAt := by
    rw [vertex_of_getElem? atI vAt, vertex_of_getElem? atJ uAt]
    have clamped := clampUnit_mono (self.position_mono le)
    exact mul_le_mul_of_nonneg_left (by linarith) high.le
  unclipped autoRange i d v atI vAt := by
    obtain ⟨low, top⟩ := mem_range autoRange (List.mem_of_getElem? atI)
    rw [vertex_of_getElem? atI vAt]
    exact congrArg (fun t => self.height * (1 - t)) (clampUnit_position low top)

end LineChart

/-- For two values or more and a visible item, the node gets the vertices that are owed,
whatever the values and the settings of the range. -/
theorem line_chart_drawn (chart : LineChart) (several : 2 ≤ chart.values.length)
    (wide : 0 < chart.width) (high : 0 < chart.height) :
    ∃ vertices, chart.updatePaintNode = some vertices ∧ chart.Drawn vertices :=
  ⟨_, LineChart.updatePaintNode_eq several wide high,
    LineChart.drawn_vertices several wide high⟩

/-- Negative values that are nearly equal, and an inverted manual range. -/
theorem line_chart_drawn_flat :
    (∃ vertices, LineChart.updatePaintNode
        { values := [-5, -5, -5], autoRange := true, width := 300, height := 100 } =
          some vertices ∧ vertices.length = 3) ∧
      ∃ vertices, LineChart.updatePaintNode
        { values := [1, 2], minValue := 10, maxValue := 3, width := 300, height := 100 } =
          some vertices ∧ vertices.length = 2 := by
  obtain ⟨flat, flatPainted, flatDrawn⟩ := line_chart_drawn
    { values := [-5, -5, -5], autoRange := true, width := 300, height := 100 }
    (by decide) (by norm_num) (by norm_num)
  obtain ⟨inverted, invertedPainted, invertedDrawn⟩ := line_chart_drawn
    { values := [1, 2], minValue := 10, maxValue := 3, width := 300, height := 100 }
    (by decide) (by norm_num) (by norm_num)
  exact ⟨⟨flat, flatPainted, flatDrawn.count⟩, inverted, invertedPainted, invertedDrawn.count⟩

end HWPanel.Client
