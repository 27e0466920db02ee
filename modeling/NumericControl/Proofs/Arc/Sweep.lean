import NumericControl.Proofs.Arc.Exact

/-!
# The sweep of an arc

An arc goes from the angle of its start to the angle of its end, downwards if it is clockwise and
upwards if it is not.  The angles are counted from zero up to a full turn, and the sweep is the way
between them in the given direction, over the place where the count starts again if need be.  An end
at the angle zero counts as a full turn, which changes the sweep only of an arc that starts there as
well.  Both directions together make one full turn.

## Main definitions

* `sweepDown`, `sweepUp` : the way from one angle to another one in either direction.
* `Geometry.stopAngle` : the angle at which an arc ends.

## Main results

* `exists_sub_sweepDown`, `exists_add_sweepUp` : the sweep leads from one angle to the other.
* `sweepDown_add_sweepUp` : both sweeps make one full turn.
* `Geometry.sweeps_arcAngles` : the sweeps of an arc.
-/

namespace NumericControl

variable {K : Type} [Field K] [LinearOrder K]

/-- The way down from one angle to another one. -/
def sweepDown (turn a b : K) : K :=
  if a < b then turn - b + a else a - b

/-- The way up from one angle to another one. -/
def sweepUp (turn a b : K) : K :=
  if b < a then turn - a + b else b - a

section Sweep

variable {turn a b : K}

/-- The way down leads to the other angle, up to whole turns. -/
theorem exists_sub_sweepDown (turn a b : K) :
    ∃ k : ℤ, a - sweepDown turn a b = b + k * turn := by
  unfold sweepDown
  split
  · refine ⟨-1, ?_⟩
    push_cast
    ring
  · refine ⟨0, ?_⟩
    push_cast
    ring

/-- The way up leads to the other angle, up to whole turns. -/
theorem exists_add_sweepUp (turn a b : K) :
    ∃ k : ℤ, a + sweepUp turn a b = b + k * turn := by
  unfold sweepUp
  split
  · refine ⟨1, ?_⟩
    push_cast
    ring
  · refine ⟨0, ?_⟩
    push_cast
    ring

/-- The ways between two angles in both directions make one turn, unless the angles are equal. -/
theorem sweepDown_add_sweepUp (hturn : 0 < turn) :
    sweepDown turn a b + sweepUp turn a b = turn ↔ a ≠ b := by
  unfold sweepDown sweepUp
  rcases lt_trichotomy a b with h | rfl | h
  · rw [if_pos h, if_neg h.not_gt]
    exact iff_of_true (by ring) h.ne
  · simp [hturn.ne]
  · rw [if_neg h.not_gt, if_pos h]
    exact iff_of_true (by ring) h.ne'

variable [IsStrictOrderedRing K]

theorem sweepDown_mem (ha : 0 ≤ a ∧ a < turn) (hb : 0 ≤ b ∧ b ≤ turn) :
    0 ≤ sweepDown turn a b ∧ sweepDown turn a b ≤ turn := by
  unfold sweepDown
  split
  · constructor <;> linarith
  · constructor <;> linarith

theorem sweepUp_mem (ha : 0 ≤ a ∧ a < turn) (hb : 0 ≤ b ∧ b ≤ turn) :
    0 ≤ sweepUp turn a b ∧ sweepUp turn a b ≤ turn := by
  unfold sweepUp
  split
  · constructor <;> linarith
  · constructor <;> linarith

end Sweep

namespace Geometry

variable (g : Geometry K)

/-- The angle at which an arc ends; zero counts as a full turn. -/
def stopAngle (plane : Plane) (center stop : Point K) : K :=
  if g.angleAbout plane center stop = 0 then g.turn else g.angleAbout plane center stop

theorem exists_stopAngle (plane : Plane) (center stop : Point K) :
    ∃ k : ℤ, g.stopAngle plane center stop = g.angleAbout plane center stop + k * g.turn := by
  unfold stopAngle
  split
  · rename_i hzero
    exact ⟨1, by rw [hzero, Int.cast_one, one_mul, zero_add]⟩
  · exact ⟨0, by rw [Int.cast_zero, zero_mul, add_zero]⟩

theorem stopAngle_mem {plane : Plane} {center stop : Point K}
    (h : 0 ≤ g.angleAbout plane center stop ∧ g.angleAbout plane center stop < g.turn) :
    0 ≤ g.stopAngle plane center stop ∧ g.stopAngle plane center stop ≤ g.turn := by
  unfold stopAngle
  split
  · exact ⟨h.1.trans h.2.le, le_rfl⟩
  · exact ⟨h.1, h.2.le⟩

/-- An angle below a full turn is that at which an arc ends only if it is not zero. -/
theorem ne_stopAngle_iff {plane : Plane} {center stop : Point K} {a : K} (ha : a < g.turn) :
    a ≠ g.stopAngle plane center stop ↔
      a ≠ g.angleAbout plane center stop ∨ g.angleAbout plane center stop = 0 := by
  unfold stopAngle
  split
  · rename_i hzero
    exact iff_of_true ha.ne (.inr hzero)
  · rename_i hpos
    exact (or_iff_left hpos).symm

variable [IsStrictOrderedRing K]

theorem sweep_arcAngles_eq (start stop center : Point K) (clockwise : Bool) (plane : Plane) :
    (g.arcAngles start stop center clockwise plane).sweep =
      if g.Coincide plane start stop then g.turn
      else if clockwise then
        sweepDown g.turn (g.angleAbout plane center start) (g.stopAngle plane center stop)
      else sweepUp g.turn (g.angleAbout plane center start) (g.stopAngle plane center stop) := by
  rw [arcAngles_eq]
  rfl

/-- The sweeps of an arc in both directions.  They are between zero and a full turn, and end points
that coincide have a full turn as their sweep.  Otherwise the sweep leads from the angle of the
start to that of the end, up to whole turns, downwards for a clockwise arc and upwards for a
counter-clockwise one.  Both sweeps add up to one turn exactly if the angles differ or are zero. -/
theorem sweeps_arcAngles (hangle : ∀ u v, 0 ≤ g.angle u v ∧ g.angle u v < g.turn)
    (start stop center : Point K) (plane : Plane) :
    let a := g.angleAbout plane center start
    let b := g.angleAbout plane center stop
    let down := g.arcAngles start stop center true plane
    let up := g.arcAngles start stop center false plane
    (down.start = a ∧ up.start = a) ∧
    (0 ≤ down.sweep ∧ down.sweep ≤ g.turn) ∧ (0 ≤ up.sweep ∧ up.sweep ≤ g.turn) ∧
    (g.Coincide plane start stop → down.sweep = g.turn ∧ up.sweep = g.turn) ∧
    (¬ g.Coincide plane start stop →
      (∃ k : ℤ, a - down.sweep = b + k * g.turn) ∧
      (∃ k : ℤ, a + up.sweep = b + k * g.turn) ∧
      (down.sweep + up.sweep = g.turn ↔ a ≠ b ∨ b = 0)) := by
  intro a b down up
  have hdown : down.sweep = if g.Coincide plane start stop then g.turn else
      sweepDown g.turn a (g.stopAngle plane center stop) :=
    g.sweep_arcAngles_eq start stop center true plane
  have hup : up.sweep = if g.Coincide plane start stop then g.turn else
      sweepUp g.turn a (g.stopAngle plane center stop) :=
    g.sweep_arcAngles_eq start stop center false plane
  have ha : 0 ≤ a ∧ a < g.turn := hangle _ _
  have hb : 0 ≤ g.stopAngle plane center stop ∧ g.stopAngle plane center stop ≤ g.turn :=
    g.stopAngle_mem (hangle _ _)
  have hturn : 0 < g.turn := ha.1.trans_lt ha.2
  have hstart (clockwise : Bool) : (g.arcAngles start stop center clockwise plane).start = a := by
    rw [arcAngles_eq]
  obtain ⟨m, hm⟩ := g.exists_stopAngle plane center stop
  by_cases hclosed : g.Coincide plane start stop
  · rw [if_pos hclosed] at hdown hup
    rw [hdown, hup]
    exact ⟨⟨hstart true, hstart false⟩, ⟨hturn.le, le_rfl⟩, ⟨hturn.le, le_rfl⟩,
      fun _ => ⟨rfl, rfl⟩, fun h => absurd hclosed h⟩
  · rw [if_neg hclosed] at hdown hup
    rw [hdown, hup]
    refine ⟨⟨hstart true, hstart false⟩, sweepDown_mem ha hb, sweepUp_mem ha hb,
      fun h => absurd h hclosed, fun _ => ⟨?_, ?_, ?_⟩⟩
    · obtain ⟨k, hk⟩ := exists_sub_sweepDown g.turn a (g.stopAngle plane center stop)
      refine ⟨m + k, ?_⟩
      rw [hk, hm, add_assoc, ← add_mul, Int.cast_add]
    · obtain ⟨k, hk⟩ := exists_add_sweepUp g.turn a (g.stopAngle plane center stop)
      refine ⟨m + k, ?_⟩
      rw [hk, hm, add_assoc, ← add_mul, Int.cast_add]
    · rw [sweepDown_add_sweepUp hturn, g.ne_stopAngle_iff ha.2]

/-- A quarter of a circle that ends on the first axis of its plane, at the angle zero. -/
theorem sweeps_arcAngles_quarter :
    let start : Point ℝ := ⟨0, 0, 1⟩
    let stop : Point ℝ := ⟨0, 1, 0⟩
    let center : Point ℝ := ⟨0, 0, 0⟩
    let down := real.arcAngles start stop center true .yz
    let up := real.arcAngles start stop center false .yz
    (∀ u v, 0 ≤ real.angle u v ∧ real.angle u v < real.turn) ∧
      ¬ real.Coincide .yz start stop ∧ real.angleAbout .yz center stop = 0 ∧
      real.angleAbout .yz center start ≠ 0 ∧
      (0 ≤ down.sweep ∧ down.sweep ≤ real.turn) ∧
      (∃ k : ℤ, real.angleAbout .yz center start - down.sweep = 0 + k * real.turn) ∧
      down.sweep + up.sweep = real.turn := by
  intro start stop center down up
  have hapart : ¬ real.Coincide .yz start stop := by
    norm_num [Coincide, real, Point.get, Plane.first, Plane.second, start, stop]
  have hstop : real.angleAbout .yz center stop = 0 := by
    have harg : Complex.arg ⟨1 - 0, 0 - 0⟩ = 0 := by
      rw [sub_zero, sub_zero]
      exact Complex.arg_one
    change (if Complex.arg ⟨1 - 0, 0 - 0⟩ < 0 then _ else Complex.arg ⟨1 - 0, 0 - 0⟩) = 0
    rw [harg, if_neg (lt_irrefl 0)]
  have hstart : real.angleAbout .yz center start ≠ 0 := by
    have harg : Complex.arg ⟨0 - 0, 1 - 0⟩ = Real.pi / 2 := by
      rw [sub_zero, sub_zero]
      exact Complex.arg_I
    have hpi := Real.pi_pos
    change (if Complex.arg ⟨0 - 0, 1 - 0⟩ < 0 then _ else Complex.arg ⟨0 - 0, 1 - 0⟩) ≠ 0
    rw [harg, if_neg (by linarith)]
    positivity
  obtain ⟨-, hdown, -, -, hopen⟩ := sweeps_arcAngles real angle_real_mem start stop center .yz
  obtain ⟨hreach, -, hsum⟩ := hopen hapart
  rw [hstop] at hreach hsum
  exact ⟨angle_real_mem, hapart, hstop, hstart, hdown, hreach, hsum.mpr (.inr rfl)⟩

end Geometry

end NumericControl
