import Shorthand.Proofs.Path.Expansion
import Shorthand.Proofs.Segment.Faults

/-!
# Faults in paths

Where the fault of a path is found, and what it tells. The main statement says that it is found in
the first faulty part of the last group that has one, and that it points at the text it complains
about.
-/

namespace Shorthand

open Text

/-- Whether a part covers the `length` characters of the whole that stand behind the first `place`
ones. -/
def Part.Covers (part : Part) (place length : Nat) : Prop :=
  part.offset ≤ place ∧ (place : Int) + length ≤ part.offset + part.text.length

namespace Path

variable {path : Text} {fault : Malformed}

/-- Whether a part of a path is the one that its fault is found in: the first one that cannot be
read, in the last group that has such a part. -/
def IsReported (path : Text) (part : Part) : Prop :=
  ∃ outer front back inner, parts path = outer ++ (front ++ part :: back) :: inner ∧
    (∀ group ∈ inner, ∀ later ∈ group, Segment.Readable later.text) ∧
    (∀ earlier ∈ front, Segment.Readable earlier.text) ∧ ¬Segment.Readable part.text

/-- Whether a fault found in a part of a path, which tells a place of the path and a segment of it,
points at the text that it complains about. -/
def PointsAt (path : Text) (part : Part) (place : Nat) (segment : Text) : Reason → Prop
  | .unterminatedBracket =>
    path[place]? = some openBracket ∧ segment = part.text ∧ part.Covers place 1
  | .unexpected c =>
    c = closeBracket ∧ path[place]? = some c ∧ segment = part.text ∧ part.Covers place 1
  | .emptyAttributeName =>
    IsFaultyBracket path place segment .emptyAttributeName ∧ part.Covers place segment.length
  | .invalidName .attribute name =>
    IsFaultyBracket path place segment (.invalidName .attribute name) ∧
      part.Covers place segment.length
  | .invalidName .tag name =>
    Segment.isTag name = false ∧ segment = part.text ∧ part.offset = place ∧
      StandsAt path place segment
  | _ => False

/-- Every part of a path stands in it at its offset. -/
theorem exists_place_of_mem_pieces {part : Part} (h : part ∈ pieces path) :
    ∃ place : Nat, part.offset = place ∧ StandsAt path place part.text := by
  obtain ⟨place, hoffset, hstands⟩ := Part.exists_place_of_mem_cut h
  exact ⟨place, by rw [hoffset, Int.zero_add], hstands⟩

private theorem exists_part_of_readGroup_eq_error {group : List Part}
    (h : readGroup path group = .error fault) :
    ∃ front part back, group = front ++ part :: back ∧
      (∀ earlier ∈ front, Segment.Readable earlier.text) ∧
        Segment.read (some path) (some part.offset) part.text = .error fault := by
  induction group with
  | nil => exact absurd h ok_ne_error
  | cons part group ih =>
    rcases bind_eq_error_iff.mp h with hpart | ⟨segment, hsegment, h⟩
    · exact ⟨[], part, group, rfl, fun earlier hmem ↦ absurd hmem List.not_mem_nil, hpart⟩
    · rcases bind_eq_error_iff.mp h with hothers | ⟨others, -, hok⟩
      · obtain ⟨front, reported, back, rfl, hfront, hread⟩ := ih hothers
        refine ⟨part :: front, reported, back, rfl, ?_, hread⟩
        exact List.forall_mem_cons.mpr ⟨(Segment.read_eq_ok_iff.mp hsegment).1, hfront⟩
      · exact absurd hok ok_ne_error

private theorem exists_group_of_readGroups_eq_error {groups : List (List Part)}
    (h : readGroups path groups = .error fault) :
    ∃ outer group inner, groups = outer ++ group :: inner ∧
      (∀ group ∈ inner, ∀ later ∈ group, Segment.Readable later.text) ∧
        readGroup path group = .error fault := by
  induction groups with
  | nil => exact absurd h ok_ne_error
  | cons group groups ih =>
    rcases bind_eq_error_iff.mp h with hothers | ⟨segments, hinner, h⟩
    · obtain ⟨outer, reported, inner, rfl, hinner, hread⟩ := ih hothers
      exact ⟨group :: outer, reported, inner, rfl, hinner, hread⟩
    · rcases bind_eq_error_iff.mp h with hgroup | ⟨others, -, hok⟩
      · exact ⟨[], group, groups, rfl, (readGroups_eq_ok_iff.mp hinner).1, hgroup⟩
      · exact absurd hok ok_ne_error

/-- The fault of a path is that of the part it is reported for. -/
theorem exists_isReported_of_read_eq_error (h : read path = .error fault) :
    ∃ part, IsReported path part ∧
      Segment.read (some path) (some part.offset) part.text = .error fault := by
  rcases bind_eq_error_iff.mp h with hgroups | ⟨groups, -, hok⟩
  · obtain ⟨outer, group, inner, hparts, hinner, hgroup⟩ :=
      exists_group_of_readGroups_eq_error hgroups
    obtain ⟨front, part, back, rfl, hfront, hread⟩ := exists_part_of_readGroup_eq_error hgroup
    refine ⟨part, ⟨outer, front, back, inner, hparts, hinner, hfront, fun hreadable ↦ ?_⟩, hread⟩
    rw [Segment.read_eq_ok_iff.mpr ⟨hreadable, rfl⟩] at hread
    exact ok_ne_error hread
  · exact absurd hok ok_ne_error

/-- The part that a fault is reported for is one of the path. -/
theorem IsReported.mem_pieces {part : Part} (h : IsReported path part) : part ∈ pieces path := by
  obtain ⟨outer, front, back, inner, hparts, -⟩ := h
  rw [← flatten_parts, hparts]
  simp

/-- A fault of a part points at the text that it complains about. -/
theorem exists_pointsAt_of_isFault {part : Part} (hpart : part ∈ pieces path)
    (h : Segment.IsFault (some path) (some part.offset) part.text fault) :
    fault.selector = path ∧ ∃ (place : Nat) (segment : Text),
      fault.location? = some ⟨some path, some segment, some place⟩ ∧
        PointsAt path part place segment fault.reason := by
  obtain ⟨start, hoffset, hstands⟩ := exists_place_of_mem_pieces hpart
  cases h with
  | @nameless distance body reason hbracket =>
    have hlocation : bracketFault (some path) (positionBehind (some part.offset) distance) body
        reason = ⟨path, reason, some ⟨some path, some (bracketed body),
          some ((start + distance : Nat) : Int)⟩⟩ := by
      simp [bracketFault, positionBehind, hoffset]
    have hwhole := hbracket.of_standsAt hstands
    obtain ⟨_, -, -, hparts, hwithin⟩ := hbracket
    have hle := hwithin.add_length_le (by simp [bracketed])
    have hcovers : part.Covers (start + distance) (bracketed body).length := by
      constructor <;> omega
    rw [hlocation]
    refine ⟨rfl, start + distance, bracketed body, rfl, ?_⟩
    rcases reason_of_attributeParts_eq_error hparts with rfl | ⟨name, rfl⟩
    · exact ⟨hwhole, hcovers⟩
    · exact ⟨hwhole, hcovers⟩
  | @loose distance c hc hplace =>
    have hcovers : part.Covers (start + distance) 1 := by
      have hlt := (List.getElem?_eq_some_iff.mp hplace).1
      constructor <;> omega
    have hwhole := hstands.getElem? hplace
    refine ⟨rfl, start + distance, part.text, ?_, ?_⟩
    · simp [positionBehind, hoffset]
    · rcases hc with rfl | rfl
      · exact ⟨hwhole, rfl, hcovers⟩
      · exact ⟨rfl, hwhole, rfl, hcovers⟩
  | @tag name hname =>
    exact ⟨rfl, start, part.text, by rw [hoffset]; rfl, hname, rfl, hoffset, hstands⟩

/-- The fault of a path names the path, is reported for the first part that cannot be read in the
last group that has such a part, and points at the text that it complains about. -/
theorem exists_pointsAt_of_expand_eq_error {policy : Policy} {content : Value}
    {overrides : Attributes AttributeValue}
    (h : expand policy path content overrides = .error fault) :
    fault.selector = path ∧ ∃ (part : Part) (place : Nat) (segment : Text),
      IsReported path part ∧ fault.location? = some ⟨some path, some segment, some place⟩ ∧
        PointsAt path part place segment fault.reason := by
  rw [expand] at h
  cases hread : read path with
  | ok found =>
    rw [hread] at h
    exact absurd h ok_ne_error
  | error found =>
    rw [hread] at h
    obtain rfl : found = fault := Except.error.inj h
    obtain ⟨part, hreported, hsegment⟩ := exists_isReported_of_read_eq_error hread
    obtain ⟨hselector, place, segment, hlocation, hpoints⟩ :=
      exists_pointsAt_of_isFault hreported.mem_pieces (Segment.isFault_of_read_eq_error hsegment)
    exact ⟨hselector, part, place, segment, hreported, hlocation, hpoints⟩

/-- A path with faults in its first two groups: the fault is that of the first part of the second
group that has one, and it points at the bracket there. -/
theorem exists_pointsAt_of_expand_eq_error_bracket :
    expand .standard "x y/a[b=/]++c[ =1]+d]/e".toList .null .empty =
        .error ⟨"x y/a[b=/]++c[ =1]+d]/e".toList, .emptyAttributeName,
          some ⟨some "x y/a[b=/]++c[ =1]+d]/e".toList, some "[ =1]".toList, some 13⟩⟩ ∧
      ∃ part, IsReported "x y/a[b=/]++c[ =1]+d]/e".toList part ∧
        PointsAt "x y/a[b=/]++c[ =1]+d]/e".toList part 13 "[ =1]".toList .emptyAttributeName := by
  have hexpand : expand .standard "x y/a[b=/]++c[ =1]+d]/e".toList .null .empty =
      .error ⟨"x y/a[b=/]++c[ =1]+d]/e".toList, .emptyAttributeName,
        some ⟨some "x y/a[b=/]++c[ =1]+d]/e".toList, some "[ =1]".toList, some 13⟩⟩ :=
    eq_error_of_fault? (by decide +kernel)
  obtain ⟨-, part, place, segment, hreported, hlocation, hpoints⟩ :=
    exists_pointsAt_of_expand_eq_error hexpand
  obtain ⟨-, hsegment, hplace⟩ := Location.mk.inj (Option.some.inj hlocation)
  obtain rfl := Option.some.inj hsegment
  obtain rfl : 13 = place := Int.ofNat.inj (Option.some.inj hplace)
  exact ⟨hexpand, part, hreported, hpoints⟩

end Path
end Shorthand
