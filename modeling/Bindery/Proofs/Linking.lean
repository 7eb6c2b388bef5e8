import Bindery.Proofs.Settling
import Bindery.Proofs.Spelling

/-!
# Links lead back

A link from a directory to a path leads to that path: the walk up undoes what the directory has for
itself, and the names down complete what the two share. The segments of a link could have been read
if those of its target could.
-/

namespace Bindery

namespace Path

/-! ## The two parts of a link -/

theorem settleFrom_ups (walked up rest : List String) :
    settleFrom walked (up.map (fun _ => "..") ++ rest) =
      settleFrom (walked.drop up.length) rest := by
  induction up generalizing walked with
  | nil => rfl
  | cons s more ih =>
      rw [List.map_cons, List.cons_append, settleFrom, if_pos rfl, ih, List.drop_tail]
      rfl

/-- Two lists of segments are what they share, followed by what sets them apart. -/
theorem apart_spec (first second : List String) :
    ∃ shared, first = shared ++ (apart first second).1 ∧
      second = shared ++ (apart first second).2 := by
  fun_induction apart first second with
  | case1 as a bs ih =>
      obtain ⟨shared, one, two⟩ := ih
      exact ⟨a :: shared, congrArg (a :: ·) one, congrArg (a :: ·) two⟩
  | case2 a as b bs => exact ⟨[], rfl, rfl⟩
  | case3 as bs => exact ⟨[], rfl, rfl⟩

theorem apart_append (shared first second : List String) :
    apart (shared ++ first) (shared ++ second) = apart first second := by
  induction shared with
  | nil => rfl
  | cons s rest ih => rw [List.cons_append, List.cons_append, apart, if_pos rfl, ih]

theorem segments_linkFrom (directory target : Path) :
    (linkFrom directory target).segments =
      (apart (settle directory.segments) (settle target.segments)).1.map (fun _ => "..") ++
        (apart (settle directory.segments) (settle target.segments)).2 := rfl

/-- The link to a directory above only leads up. -/
theorem segments_linkFrom_of_above {directory target : Path} {up : List String}
    (here : settle directory.segments = settle target.segments ++ up) :
    (linkFrom directory target).segments = up.map fun _ => ".." := by
  have ended := apart_append (settle target.segments) up []
  rw [List.append_nil] at ended
  have kept : apart up [] = (up, []) := by cases up <;> rfl
  rw [segments_linkFrom, here, ended, kept, List.append_nil]

/-- A walk up undoes the end of a settled directory, and the names below go on from there. -/
theorem settle_up_down {start shared up down : List String} (here : settle start = shared ++ up)
    (plain : ".." ∉ down) :
    settle (start ++ (up.map (fun _ => "..") ++ down)) = shared ++ down := by
  have back : (settle start).reverse.drop up.length = shared.reverse := by
    rw [here, List.reverse_append, List.drop_left' List.length_reverse]
  rw [settle, settleFrom_append, settleFrom_ups]
  change settleFrom ((settle start).reverse.drop _) _ = _
  rw [back, settleFrom_of_no_dots _ _ plain, List.reverse_reverse]

theorem settle_append_congr {first second : List String} (same : settle first = settle second)
    (rest : List String) : settle (first ++ rest) = settle (second ++ rest) := by
  rw [settle_append, settle_append, same]

/-- A link leads to its target. -/
theorem settle_linkFrom (directory target : Path) :
    settle (directory.segments ++ (linkFrom directory target).segments) =
      settle target.segments := by
  obtain ⟨shared, here, there⟩ := apart_spec (settle directory.segments) (settle target.segments)
  have plain : ".." ∉ (apart (settle directory.segments) (settle target.segments)).2 := by
    intro inside
    have settled := settle_no_dots target.segments
    rw [there] at settled
    exact settled (List.mem_append_right _ inside)
  rw [segments_linkFrom, settle_up_down here plain, ← there]

theorem mem_settleFrom {walked segments : List String} {s : String}
    (present : s ∈ settleFrom walked segments) : s ∈ walked ∨ s ∈ segments := by
  induction segments generalizing walked with
  | nil => exact .inl (List.mem_reverse.mp present)
  | cons t rest ih =>
      rw [settleFrom] at present
      split at present
      · rcases ih present with behind | later
        · exact .inl (List.mem_of_mem_tail behind)
        · exact .inr (List.mem_cons_of_mem _ later)
      · rcases ih present with behind | later
        · rcases List.mem_cons.mp behind with rfl | behind
          · exact .inr List.mem_cons_self
          · exact .inl behind
        · exact .inr (List.mem_cons_of_mem _ later)

theorem areRead_linkFrom (directory : Path) {target : Path} (read : AreRead target.segments) :
    AreRead (linkFrom directory target).segments := by
  obtain ⟨shared, -, down⟩ := apart_spec (settle directory.segments) (settle target.segments)
  intro s listed
  rw [segments_linkFrom, List.mem_append] at listed
  rcases listed with up | below
  · obtain ⟨_, -, rfl⟩ := List.mem_map.mp up
    decide
  · have settled : s ∈ settle target.segments := by
      rw [down]
      exact List.mem_append_right _ below
    exact read s ((mem_settleFrom settled).resolve_left List.not_mem_nil)

end Path

end Bindery
