import PatchTriage.Proofs.Table
import PatchTriage.Telemetry.Captured

/-!
# Counting captured faults

Values that are not made of others are told apart by the text or the number that they stand for
(`Json.key`), so faults can be counted by a stage of this kind, whether it is a text or not. A stage
that is a list or an object cannot be counted by, and is the one thing that keeps a tracker from
counting (`Tracker.counted`).
-/

namespace PatchTriage

namespace Json

/-- What a value that is not made of others is told apart by: a text by itself, null by nothing, and
any other value by the number that it stands for. -/
def key : Json → Option String × Option Int
  | text s => (some s, none)
  | v => (none, v.units?)

/-- Simple values are equal just if their keys are. -/
theorem beq_eq_beq_key {v w : Json} (hv : v.isCompound = false) (hw : w.isCompound = false) :
    (v == w) = (v.key == w.key) := by
  have hsame : (v == w) = same v w := rfl
  rw [hsame]
  cases v <;> cases w <;> simp_all [same, key, units?, isCompound]

end Json

namespace Tracker

/-- Whether the counts of a tracker by stage and by label add up to the number of its faults. -/
structure Counted (t : Tracker) (c : FaultCounts) : Prop where
  total : c.total = t.faults.length
  byStage : (c.byStage.map (·.2)).sum = t.faults.length
  byLabel : (c.byLabel.map (·.2)).sum = t.faults.length

/-- Stages that are not made of others are counted under what tells them apart. -/
theorem sum_byStage {l : List CapturedFault} (h : ∀ r ∈ l, r.countedStage.isCompound = false) :
    ((Table.counts (l.map (·.countedStage))).map (·.2)).sum = l.length := by
  have hkey : ∀ v ∈ l.map (·.countedStage), ∀ w ∈ l.map (·.countedStage),
      (v == w) = (v.key == w.key) := by
    intro v hv w hw
    obtain ⟨r, hr, rfl⟩ := List.mem_map.1 hv
    obtain ⟨r', hr', rfl⟩ := List.mem_map.1 hw
    exact Json.beq_eq_beq_key (h r hr) (h r' hr')
  rw [Table.sum_counts_of_key hkey, List.length_map]

/-- **A tracker can count its faults unless one of them has a list or an object for its stage, and
the counts of either kind add up to the number of faults.** -/
theorem counted (t : Tracker) :
    ((∃ c, t.counts = .ok c) ↔ ∀ r ∈ t.faults, r.countedStage.isCompound = false) ∧
      ∀ c, t.counts = .ok c → t.Counted c := by
  rw [counts]
  cases hfind : (t.faults.map (·.countedStage)).find? (·.isCompound) with
  | some stage =>
    obtain ⟨r, hr, rfl⟩ := List.mem_map.1 (List.mem_of_find?_eq_some hfind)
    refine ⟨⟨?_, fun h => ?_⟩, nofun⟩
    · rintro ⟨c, hc⟩
      cases hc
    · have hcompound := List.find?_some hfind
      rw [h r hr] at hcompound
      cases hcompound
  | none =>
    have hnone : ∀ r ∈ t.faults, r.countedStage.isCompound = false := fun r hr =>
      Bool.eq_false_iff.2 (List.find?_eq_none.1 hfind _ (List.mem_map_of_mem hr))
    refine ⟨⟨fun _ => hnone, fun _ => ⟨_, rfl⟩⟩, fun c hc => ?_⟩
    obtain rfl := Except.ok.inj hc
    exact ⟨rfl, sum_byStage hnone, by rw [Table.sum_counts, List.length_map]⟩

end Tracker

end PatchTriage
