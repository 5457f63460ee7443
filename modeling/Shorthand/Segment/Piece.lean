import Shorthand.Decoration
import Shorthand.Segment.Bracket

/-!
# Pieces of a segment

A segment is scanned from left to right into pieces: a marker with the longest run behind
it, a bracket that closes before another one opens, or a single loose character. The pieces
put together again are the segment.
-/

namespace Shorthand

/-- A piece of a segment. -/
inductive Piece where
  | run (marker : Marker) (value : Text)
  | bracket (body : Text)
  | loose (c : Char)
  deriving DecidableEq, Repr

namespace Piece

/-- The text that a piece was read from. -/
def text : Piece → Text
  | .run marker value => marker.char :: value
  | .bracket body => bracketed body
  | .loose c => [c]

/-- The loose character that a piece consists of, if it does. -/
def loose? : Piece → Option Char
  | .loose c => some c
  | _ => none

/-- The piece that begins with `c` and continues in the text behind it. -/
def first (c : Char) (rest : Text) : Piece :=
  match Marker.ofChar? c with
  | some marker =>
    match rest.takeWhile isRunChar with
    | [] => .loose c
    | value => .run marker value
  | none =>
    if c = openBracket then
      match bracketBody? rest with
      | some body => .bracket body
      | none => .loose c
    else .loose c

/-- The pieces of a text behind its first `covered` characters, which belong to a piece that
was read before. -/
def scanFrom : Nat → Text → List Piece
  | _, [] => []
  | covered + 1, _ :: rest => scanFrom covered rest
  | 0, c :: rest =>
    let piece := first c rest
    piece :: scanFrom (piece.text.length - 1) rest

/-- The pieces of a text. -/
def scan (s : Text) : List Piece := scanFrom 0 s

private theorem drop_length_takeWhile (p : Char → Bool) (s : Text) :
    s.drop (s.takeWhile p).length = s.dropWhile p := by
  have h : ((s.takeWhile p) ++ (s.dropWhile p)).drop (s.takeWhile p).length = s.dropWhile p :=
    List.drop_left
  rwa [List.takeWhile_append_dropWhile] at h

/-- A first piece is read from the beginning of the text. -/
theorem first_text_append (c : Char) (rest : Text) :
    (first c rest).text ++ rest.drop ((first c rest).text.length - 1) = c :: rest := by
  unfold first
  split
  · next marker hm =>
    split
    · simp [text]
    · next hrun =>
      rw [Marker.ofChar?_eq_some_iff] at hm
      simp only [text, List.length_cons, Nat.add_sub_cancel, List.cons_append, hm]
      rw [drop_length_takeWhile, List.takeWhile_append_dropWhile]
  · split
    · next hc =>
      split
      · next body hbody =>
        obtain ⟨-, -, after, rfl⟩ := bracketBody?_eq_some_iff.mp hbody
        simp [text, bracketed, hc]
      · simp [text]
    · simp [text]

private theorem scanFrom_eq (covered : Nat) (s : Text) :
    scanFrom covered s = scan (s.drop covered) := by
  induction s generalizing covered with
  | nil => simp [scanFrom, scan]
  | cons c rest ih =>
    cases covered with
    | zero => rfl
    | succ covered => simpa [scanFrom] using ih covered

/-- The empty text has no pieces. -/
@[simp] theorem scan_nil : scan [] = [] := rfl

/-- The pieces of a text are its first piece and those of the text behind it. -/
theorem scan_cons (c : Char) (rest : Text) :
    scan (c :: rest) =
      first c rest :: scan (rest.drop ((first c rest).text.length - 1)) := by
  rw [scan, scanFrom, scanFrom_eq]

/-- The pieces of a text put together are the text. -/
theorem flatMap_text_scan (s : Text) : (scan s).flatMap text = s := by
  induction h : s.length using Nat.strongRecOn generalizing s with
  | ind n ih =>
    cases s with
    | nil => rfl
    | cons c rest =>
      rw [scan_cons, List.flatMap_cons,
        ih (rest.drop ((first c rest).text.length - 1)).length (by simp at h ⊢; omega) _ rfl]
      exact first_text_append c rest

end Piece
end Shorthand
