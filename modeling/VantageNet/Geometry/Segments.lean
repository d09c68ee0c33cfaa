import Mathlib.Analysis.Convex.Segment
import Mathlib.Tactic.FieldSimp
import Mathlib.Tactic.Linarith
import Mathlib.Tactic.LinearCombination

/-!
When two closed segments of the plane have a point in common. Segments may be single points, and may lie on one line.
-/

namespace VantageNet.Geometry

variable {K : Type} [Field K] [LinearOrder K] [IsStrictOrderedRing K]

/-- On which side of the line from `p` to `q` the point `r` is; none where this is zero. -/
def cross (p q r : K × K) : K := (r.1 - p.1) * (q.2 - p.2) - (r.2 - p.2) * (q.1 - p.1)

/-- The point is in the least box around two others. -/
def InBox (p q r : K × K) : Prop := r.1 ≤ max p.1 q.1 ∧ min p.1 q.1 ≤ r.1 ∧ r.2 ≤ max p.2 q.2 ∧ min p.2 q.2 ≤ r.2

def Opposite (a b : K) : Prop := 0 < a ∧ b < 0 ∨ a < 0 ∧ 0 < b

theorem mem_segment_iff_param {p q r : K × K} :
    r ∈ segment K p q ↔ ∃ t, 0 ≤ t ∧ t ≤ 1 ∧ r.1 = p.1 + t * (q.1 - p.1) ∧ r.2 = p.2 + t * (q.2 - p.2) := by
  rw [segment_eq_image']
  constructor
  · rintro ⟨t, ⟨hzero, hone⟩, rfl⟩
    exact ⟨t, hzero, hone, rfl, rfl⟩
  · rintro ⟨t, hzero, hone, hx, hy⟩
    exact ⟨t, ⟨hzero, hone⟩, Prod.ext hx.symm hy.symm⟩

section param

variable {a b c t : K}

theorem between_of_param (hzero : 0 ≤ t) (hone : t ≤ 1) (hc : c = a + t * (b - a)) : c ≤ max a b ∧ min a b ≤ c := by
  rw [le_max_iff, min_le_iff, hc]
  rcases le_total a b with h | h
  · exact ⟨.inr (by nlinarith), .inl (by nlinarith)⟩
  · exact ⟨.inl (by nlinarith), .inr (by nlinarith)⟩

theorem exists_param (hne : a ≠ b) (hmax : c ≤ max a b) (hmin : min a b ≤ c) :
    ∃ t, 0 ≤ t ∧ t ≤ 1 ∧ c = a + t * (b - a) := by
  have hsub : b - a ≠ 0 := sub_ne_zero.mpr hne.symm
  refine ⟨(c - a) / (b - a), ?_, ?_, by field_simp; ring⟩
  · rcases lt_or_gt_of_ne hne with h | h
    · rw [min_eq_left h.le] at hmin
      exact div_nonneg (by linarith) (by linarith)
    · rw [max_eq_left h.le] at hmax
      exact div_nonneg_of_nonpos (by linarith) (by linarith)
  · rcases lt_or_gt_of_ne hne with h | h
    · rw [max_eq_right h.le] at hmax
      rw [div_le_one (by linarith)]
      linarith
    · rw [min_eq_right h.le] at hmin
      rw [div_le_one_of_neg (by linarith)]
      linarith

end param

theorem mem_segment_iff {p q r : K × K} : r ∈ segment K p q ↔ cross p q r = 0 ∧ InBox p q r := by
  rw [mem_segment_iff_param]
  constructor
  · rintro ⟨t, hzero, hone, hx, hy⟩
    obtain ⟨hx₁, hx₂⟩ := between_of_param hzero hone hx
    obtain ⟨hy₁, hy₂⟩ := between_of_param hzero hone hy
    refine ⟨?_, hx₁, hx₂, hy₁, hy₂⟩
    rw [cross, hx, hy]
    ring
  · rintro ⟨hcross, hx₁, hx₂, hy₁, hy₂⟩
    rw [cross] at hcross
    by_cases hx : p.1 = q.1
    · by_cases hy : p.2 = q.2
      · rw [← hx, max_self] at hx₁
        rw [← hx, min_self] at hx₂
        rw [← hy, max_self] at hy₁
        rw [← hy, min_self] at hy₂
        exact ⟨0, le_rfl, zero_le_one, by linarith, by linarith⟩
      · obtain ⟨t, hzero, hone, ht⟩ := exists_param hy hy₁ hy₂
        have hsame : (r.1 - p.1) * (q.2 - p.2) = 0 := by rw [hx, sub_self, mul_zero, sub_zero] at hcross; rw [hx]; exact hcross
        have hr : r.1 - p.1 = 0 := (mul_eq_zero.mp hsame).resolve_right (sub_ne_zero.mpr (Ne.symm hy))
        exact ⟨t, hzero, hone, by rw [← hx]; linarith, ht⟩
    · obtain ⟨t, hzero, hone, ht⟩ := exists_param hx hx₁ hx₂
      have hsub : q.1 - p.1 ≠ 0 := sub_ne_zero.mpr (Ne.symm hx)
      refine ⟨t, hzero, hone, ht, ?_⟩
      have hline : (r.2 - p.2) * (q.1 - p.1) = t * (q.2 - p.2) * (q.1 - p.1) := by rw [ht] at hcross; linear_combination -hcross
      linarith [mul_right_cancel₀ hsub hline]

/-- A point on the line through two others. -/
theorem exists_line_param {p q r : K × K} (hne : p ≠ q) (hcross : cross p q r = 0) :
    ∃ u, r.1 = p.1 + u * (q.1 - p.1) ∧ r.2 = p.2 + u * (q.2 - p.2) := by
  rw [cross] at hcross
  by_cases hx : p.1 = q.1
  · have hy : q.2 - p.2 ≠ 0 := sub_ne_zero.mpr (fun h => hne (Prod.ext hx h.symm))
    have hr : r.1 - p.1 = 0 := by
      rw [← hx, sub_self, mul_zero, sub_zero] at hcross
      exact (mul_eq_zero.mp hcross).resolve_right hy
    exact ⟨(r.2 - p.2) / (q.2 - p.2), by rw [← hx, sub_self, mul_zero]; linarith, by field_simp; ring⟩
  · have hsub : q.1 - p.1 ≠ 0 := sub_ne_zero.mpr (Ne.symm hx)
    refine ⟨(r.1 - p.1) / (q.1 - p.1), by field_simp; ring, ?_⟩
    field_simp
    linear_combination -hcross

section meeting

variable {p₁ p₂ p₃ p₄ : K × K}

/-- Each segment has its ends on both sides of the other one. -/
theorem meet_of_opposite (h₁₂ : Opposite (cross p₃ p₄ p₁) (cross p₃ p₄ p₂)) (h₃₄ : Opposite (cross p₁ p₂ p₃) (cross p₁ p₂ p₄)) :
    (segment K p₁ p₂ ∩ segment K p₃ p₄).Nonempty := by
  have param {a b : K} (h : Opposite a b) : a - b ≠ 0 ∧ 0 ≤ a / (a - b) ∧ a / (a - b) ≤ 1 := by
    rcases h with ⟨ha, hb⟩ | ⟨ha, hb⟩
    · exact ⟨by linarith, div_nonneg ha.le (by linarith), (div_le_one (by linarith)).mpr (by linarith)⟩
    · exact ⟨by linarith, div_nonneg_of_nonpos ha.le (by linarith), (div_le_one_of_neg (by linarith)).mpr (by linarith)⟩
  obtain ⟨hne₁₂, hzero₁₂, hone₁₂⟩ := param h₁₂
  obtain ⟨hne₃₄, hzero₃₄, hone₃₄⟩ := param h₃₄
  have hdiff : cross p₁ p₂ p₃ - cross p₁ p₂ p₄ = -(cross p₃ p₄ p₁ - cross p₃ p₄ p₂) := by simp only [cross]; ring
  set t := cross p₃ p₄ p₁ / (cross p₃ p₄ p₁ - cross p₃ p₄ p₂) with ht
  refine ⟨(p₁.1 + t * (p₂.1 - p₁.1), p₁.2 + t * (p₂.2 - p₁.2)), mem_segment_iff_param.mpr ⟨t, hzero₁₂, hone₁₂, rfl, rfl⟩,
    mem_segment_iff_param.mpr ⟨_, hzero₃₄, hone₃₄, ?_, ?_⟩⟩
  all_goals
    rw [hdiff, ht]
    field_simp
    simp only [cross]
    ring

/-- Of two stretches of the line with a common point, one begins or ends within the other. -/
theorem stretch_cases {u v s t : K} (hs : 0 ≤ s) (hs' : s ≤ 1) (ht : 0 ≤ t) (ht' : t ≤ 1) (h : s = u + t * (v - u)) :
    (0 ≤ u ∧ u ≤ 1) ∨ (0 ≤ v ∧ v ≤ 1) ∨ (u - v ≠ 0 ∧ 0 ≤ u / (u - v) ∧ u / (u - v) ≤ 1) := by
  obtain ⟨hmax, hmin⟩ := between_of_param ht ht' h
  rcases lt_or_ge u 0 with hu | hu
  · rcases lt_or_ge v 0 with hv | hv
    · exact absurd hs (hmax.trans_lt (max_lt hu hv)).not_ge
    · exact .inr (.inr ⟨by linarith, div_nonneg_of_nonpos hu.le (by linarith), (div_le_one_of_neg (by linarith)).mpr (by linarith)⟩)
  · rcases le_or_gt u 1 with hu' | hu'
    · exact .inl ⟨hu, hu'⟩
    · rcases lt_or_ge v 0 with hv | hv
      · exact .inr (.inr ⟨by linarith, div_nonneg hu (by linarith), (div_le_one (by linarith)).mpr (by linarith)⟩)
      · rcases le_or_gt v 1 with hv' | hv'
        · exact .inr (.inl ⟨hv, hv'⟩)
        · exact absurd hs' ((lt_min hu' hv').trans_le hmin).not_ge

/-- A common point of two segments on one line. -/
theorem endpoint_mem_of_collinear {x : K × K} (h₁ : cross p₃ p₄ p₁ = 0) (h₂ : cross p₃ p₄ p₂ = 0)
    (hx₁₂ : x ∈ segment K p₁ p₂) (hx₃₄ : x ∈ segment K p₃ p₄) :
    p₁ ∈ segment K p₃ p₄ ∨ p₂ ∈ segment K p₃ p₄ ∨ p₃ ∈ segment K p₁ p₂ := by
  by_cases hne : p₃ = p₄
  · rw [← hne, segment_same, Set.mem_singleton_iff] at hx₃₄
    exact .inr (.inr (hx₃₄ ▸ hx₁₂))
  · obtain ⟨u, hu, hu'⟩ := exists_line_param hne h₁
    obtain ⟨v, hv, hv'⟩ := exists_line_param hne h₂
    obtain ⟨t, ht, ht', hx, hy⟩ := mem_segment_iff_param.mp hx₁₂
    obtain ⟨s, hs, hs', hx', hy'⟩ := mem_segment_iff_param.mp hx₃₄
    have hsame : s = u + t * (v - u) := by
      by_contra hdiff
      have hzero : s - (u + t * (v - u)) ≠ 0 := sub_ne_zero.mpr hdiff
      rw [hu, hv, hx'] at hx
      rw [hu', hv', hy'] at hy
      have hfst : (s - (u + t * (v - u))) * (p₄.1 - p₃.1) = 0 := by linear_combination hx
      have hsnd : (s - (u + t * (v - u))) * (p₄.2 - p₃.2) = 0 := by linear_combination hy
      have hfst := (mul_eq_zero.mp hfst).resolve_left hzero
      have hsnd := (mul_eq_zero.mp hsnd).resolve_left hzero
      exact hne (Prod.ext (by linarith) (by linarith))
    rcases stretch_cases hs hs' ht ht' hsame with hin | hin | ⟨hdiff, hin⟩
    · exact .inl (mem_segment_iff_param.mpr ⟨u, hin.1, hin.2, hu, hu'⟩)
    · exact .inr (.inl (mem_segment_iff_param.mpr ⟨v, hin.1, hin.2, hv, hv'⟩))
    · refine .inr (.inr (mem_segment_iff_param.mpr ⟨u / (u - v), hin.1, hin.2, ?_, ?_⟩))
      · rw [hu, hv]
        field_simp
        ring
      · rw [hu', hv']
        field_simp
        ring

theorem opposite_of_sum {a b t : K} (ha : a ≠ 0) (ht : 0 < t) (ht' : t < 1) (h : (1 - t) * a + t * b = 0) : Opposite a b := by
  rcases lt_or_gt_of_ne ha with ha | ha
  · exact .inr ⟨ha, by nlinarith⟩
  · exact .inl ⟨ha, by nlinarith⟩

/-- Two segments have a point in common when they cross, or when one of them has an end on the other. -/
theorem segments_meet_iff : (segment K p₁ p₂ ∩ segment K p₃ p₄).Nonempty ↔
    Opposite (cross p₃ p₄ p₁) (cross p₃ p₄ p₂) ∧ Opposite (cross p₁ p₂ p₃) (cross p₁ p₂ p₄) ∨
      p₁ ∈ segment K p₃ p₄ ∨ p₂ ∈ segment K p₃ p₄ ∨ p₃ ∈ segment K p₁ p₂ ∨ p₄ ∈ segment K p₁ p₂ := by
  constructor
  · rintro ⟨x, hx₁₂, hx₃₄⟩
    obtain ⟨t, ht, ht', hx, hy⟩ := mem_segment_iff_param.mp hx₁₂
    obtain ⟨s, hs, hs', hx', hy'⟩ := mem_segment_iff_param.mp hx₃₄
    rcases ht.eq_or_lt with rfl | ht
    · exact .inr (.inl ((Prod.ext (by linarith) (by linarith) : x = p₁) ▸ hx₃₄))
    rcases ht'.eq_or_lt with rfl | ht'
    · exact .inr (.inr (.inl ((Prod.ext (by linarith) (by linarith) : x = p₂) ▸ hx₃₄)))
    rcases hs.eq_or_lt with rfl | hs
    · exact .inr (.inr (.inr (.inl ((Prod.ext (by linarith) (by linarith) : x = p₃) ▸ hx₁₂))))
    rcases hs'.eq_or_lt with rfl | hs'
    · exact .inr (.inr (.inr (.inr ((Prod.ext (by linarith) (by linarith) : x = p₄) ▸ hx₁₂))))
    -- The common point lies within both segments.
    have hsum₁₂ : (1 - t) * cross p₃ p₄ p₁ + t * cross p₃ p₄ p₂ = 0 := by
      have hon := (mem_segment_iff.mp hx₃₄).1
      rw [cross, hx, hy] at hon
      simp only [cross]
      linear_combination hon
    have hsum₃₄ : (1 - s) * cross p₁ p₂ p₃ + s * cross p₁ p₂ p₄ = 0 := by
      have hon := (mem_segment_iff.mp hx₁₂).1
      rw [cross, hx', hy'] at hon
      simp only [cross]
      linear_combination hon
    by_cases h₁ : cross p₃ p₄ p₁ = 0
    · have h₂ : cross p₃ p₄ p₂ = 0 := by
        rw [h₁, mul_zero, zero_add] at hsum₁₂
        exact (mul_eq_zero.mp hsum₁₂).resolve_left ht.ne'
      rcases endpoint_mem_of_collinear h₁ h₂ hx₁₂ hx₃₄ with h | h | h
      · exact .inr (.inl h)
      · exact .inr (.inr (.inl h))
      · exact .inr (.inr (.inr (.inl h)))
    · have h₁₂ := opposite_of_sum h₁ ht ht' hsum₁₂
      have hdiff : cross p₁ p₂ p₃ - cross p₁ p₂ p₄ = -(cross p₃ p₄ p₁ - cross p₃ p₄ p₂) := by simp only [cross]; ring
      have h₃ : cross p₁ p₂ p₃ ≠ 0 := by
        intro h₃
        have h₄ : cross p₁ p₂ p₄ = 0 := by
          rw [h₃, mul_zero, zero_add] at hsum₃₄
          exact (mul_eq_zero.mp hsum₃₄).resolve_left hs.ne'
        rw [h₃, h₄] at hdiff
        rcases h₁₂ with h | h <;> linarith [h.1, h.2]
      exact .inl ⟨h₁₂, opposite_of_sum h₃ hs hs' hsum₃₄⟩
  · rintro (⟨h₁₂, h₃₄⟩ | h | h | h | h)
    · exact meet_of_opposite h₁₂ h₃₄
    · exact ⟨p₁, left_mem_segment K p₁ p₂, h⟩
    · exact ⟨p₂, right_mem_segment K p₁ p₂, h⟩
    · exact ⟨p₃, h, left_mem_segment K p₃ p₄⟩
    · exact ⟨p₄, h, right_mem_segment K p₃ p₄⟩

end meeting

end VantageNet.Geometry
