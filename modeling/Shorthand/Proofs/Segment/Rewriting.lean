import Shorthand.Proofs.Segment.RoundTrip

/-!
# Rewriting segments

A segment that has been read can be written anew from its tag and its attributes. The id and the
class are then written behind their markers, whatever they were read from, and everything else in
brackets. The main statement says that the new text is read as the same tag with the same attributes
exactly if the id and the class can stand behind a marker, which they can if no bracket named them.
-/

namespace Shorthand

open Text

namespace Segment

/-- Whether the id and the class, as far as they are set, can stand behind their markers. -/
def MarkersSuffice (attributes : Attributes Text) : Prop :=
  ∀ name value, name = idName ∨ name = className → attributes.get? name = some value →
    IsRunValue value

/-- A value is searched for characters that end a run, and for spaces at its ends. -/
instance (value : Text) : Decidable (IsRunValue value) :=
  decidable_of_iff (value ≠ [] ∧ value.all isRunChar = true ∧ value.head? ≠ some ' ' ∧
      value.getLast? ≠ some ' ')
    ⟨fun ⟨hne, hchars, hhead, hlast⟩ ↦ ⟨hne, List.all_eq_true.mp hchars, hhead, hlast⟩,
      fun h ↦ ⟨h.ne_nil, List.all_eq_true.mpr h.isRunChar, h.head?, h.getLast?⟩⟩

/-- Only the values of the id and of the class are checked. -/
instance (attributes : Attributes Text) : Decidable (MarkersSuffice attributes) :=
  decidable_of_iff (∀ name ∈ [idName, className], ∀ value ∈ attributes.get? name, IsRunValue value)
    ⟨fun h name value hname hget ↦ h name (by simpa using hname) value hget,
      fun h name hname value hget ↦ h name value (by simpa using hname) hget⟩

variable {raw default : Text}

/-- A segment has the splice tag or a name as its tag, if untagged ones have a name. -/
theorem Readable.isName_tag (h : Readable raw) (hdefault : isName default = true) :
    (ofText raw).tag default = spliceTag ∨ isName ((ofText raw).tag default) = true := by
  have htag := h.isTag
  rw [Segment.tag, ofText, tagOf?]
  split
  · exact .inr hdefault
  · next hne => simpa [Segment.isTag, hne] using htag

/-- What a segment means can be written exactly if the markers suffice for its id and class. -/
theorem Readable.writable_iff (h : Readable raw) (hdefault : isName default = true) :
    Writable ((ofText raw).tag default) (Contributions.ofDecorations (ofText raw).decorations) ↔
      MarkersSuffice (Contributions.ofDecorations (ofText raw).decorations) := by
  constructor
  · intro hwritable name value hmarked hget
    exact (hwritable.attributes _ (Attributes.mem_of_get? hget)).marked hmarked
  · intro hsuffice
    refine ⟨h.isName_tag hdefault, fun entry hentry ↦ ?_⟩
    have hget := Attributes.get?_of_mem hentry
    exact ⟨fun hmarked ↦ hsuffice _ _ hmarked hget, fun _ _ ↦ h.isName_of_get? hget⟩

/-- The markers suffice for what they were read from. -/
theorem markersSuffice_of_brackets
    (h : ∀ body, .bracket body ∈ Piece.scan raw →
      trim (cutAt '=' body).1 ≠ idName ∧ trim (cutAt '=' body).1 ≠ className) :
    MarkersSuffice (Contributions.ofDecorations (ofText raw).decorations) := by
  rintro name value (rfl | rfl) hget
  · exact isRunValue_of_get? hget fun body hbody ↦ (h body hbody).1
  · exact isRunValue_of_get? hget fun body hbody ↦ (h body hbody).2

/-- A segment that has been read is read again from the shorthand of its tag and its attributes,
with these in whatever order, exactly if the markers suffice for its id and its class. The order of
the attributes is then kept too. The markers suffice unless a bracket named the id or the class. -/
theorem read_rewritten_iff {segment : Segment} {selector? : Option Text} {offset? : Option Int}
    (hdefault : isName default = true) (hread : read selector? offset? raw = .ok segment)
    (selector?' : Option Text) (offset?' : Option Int) :
    let tag := segment.tag default
    let attributes := Contributions.ofDecorations segment.decorations
    ((∃ again, read selector?' offset?' (shorthand tag attributes) = .ok again ∧
          again.tag default = tag ∧
          (Contributions.ofDecorations again.decorations).sameBindings attributes = true) ↔
        MarkersSuffice attributes) ∧
      (MarkersSuffice attributes →
        ∃ again, read selector?' offset?' (shorthand tag attributes) = .ok again ∧
          again.tag default = tag ∧ Contributions.ofDecorations again.decorations = attributes) ∧
      ((∀ body, .bracket body ∈ Piece.scan raw →
          trim (cutAt '=' body).1 ≠ idName ∧ trim (cutAt '=' body).1 ≠ className) →
        MarkersSuffice attributes) := by
  obtain ⟨hreadable, rfl⟩ := read_eq_ok_iff.mp hread
  intro tag attributes
  have hwritable : Writable tag attributes ↔ MarkersSuffice attributes :=
    hreadable.writable_iff hdefault
  have hkept : MarkersSuffice attributes →
      ∃ again, read selector?' offset?' (shorthand tag attributes) = .ok again ∧
        again.tag default = tag ∧ Contributions.ofDecorations again.decorations = attributes :=
    fun hsuffice ↦ (hwritable.mpr hsuffice).read_shorthand selector?' offset?' default
  refine ⟨⟨?_, fun hsuffice ↦ ?_⟩, hkept, markersSuffice_of_brackets⟩
  · rintro ⟨again, hagain, htag, hsame⟩
    obtain ⟨hreadableAgain, rfl⟩ := read_eq_ok_iff.mp hagain
    -- The shorthand holds no id or class in brackets, so what is read from it is writable.
    exact hwritable.mp (writable_of_readable hreadableAgain hdefault htag hsame)
  · obtain ⟨again, hagain, htag, hequal⟩ := hkept hsuffice
    refine ⟨again, hagain, htag, (Attributes.sameBindings_iff _ _).mpr fun name ↦ ?_⟩
    rw [hequal]

/-- A class in brackets between others is written behind a marker with them, and read again. -/
theorem read_rewritten_iff_class :
    ∃ segment again, read none (some 0) " .x y [class=b c] [href=/q?a=1].z".toList = .ok segment ∧
      read none (some 0) "div.x y b c z[href=/q?a=1]".toList = .ok again ∧
      again.tag Policy.standard.defaultTag = segment.tag Policy.standard.defaultTag ∧
      Contributions.ofDecorations again.decorations =
        Contributions.ofDecorations segment.decorations := by
  let segment : Segment := ⟨" .x y [class=b c] [href=/q?a=1].z".toList, none,
    [⟨.classes, some "x y".toList, false⟩, ⟨.attribute className, some "b c".toList, false⟩,
      ⟨.attribute "href".toList, some "/q?a=1".toList, false⟩, ⟨.classes, some "z".toList, false⟩]⟩
  have hread : read none (some 0) segment.raw = .ok segment := eq_ok_of_toOption (by decide +kernel)
  have hdefault : isName Policy.standard.defaultTag = true := by decide +kernel
  have hsuffice : MarkersSuffice (Contributions.ofDecorations segment.decorations) := by
    decide +kernel
  have hshorthand : shorthand (segment.tag Policy.standard.defaultTag)
      (Contributions.ofDecorations segment.decorations) =
        "div.x y b c z[href=/q?a=1]".toList := by decide +kernel
  obtain ⟨again, hagain, htag, hsame⟩ :=
    (read_rewritten_iff hdefault hread none (some 0)).2.1 hsuffice
  rw [hshorthand] at hagain
  exact ⟨segment, again, hread, hagain, htag, hsame⟩

/-- An id in brackets may hold a colon, which no marker takes: the rest of the id is lost. -/
theorem read_rewritten_colon :
    ∃ segment again, read none (some 0) "p[id=a:b]".toList = .ok segment ∧
      segment.tag Policy.standard.defaultTag = "p".toList ∧
      (Contributions.ofDecorations segment.decorations).entries = [(idName, "a:b".toList)] ∧
      read none (some 0) (shorthand (segment.tag Policy.standard.defaultTag)
        (Contributions.ofDecorations segment.decorations)) = .ok again ∧
      (Contributions.ofDecorations again.decorations).entries = [(idName, "a".toList)] :=
  ⟨⟨"p[id=a:b]".toList, some "p".toList, [⟨.attribute idName, some "a:b".toList, false⟩]⟩,
    ⟨"p#a:b".toList, some "p".toList, [⟨.ids, some "a".toList, false⟩]⟩,
    eq_ok_of_toOption (by decide +kernel), by decide +kernel, by decide +kernel,
    eq_ok_of_toOption (by decide +kernel), by decide +kernel⟩

end Segment
end Shorthand
