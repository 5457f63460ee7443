import Shorthand.Path.Markup
import Shorthand.Proofs.Path.Expansion
import Shorthand.Proofs.Template.Reading
import Shorthand.Template.Fill

/-!
# Names in markup

What is written unescaped has to be a name: the tags and the names of the attributes. The main
statements say that both readers let nothing else through, and that collecting, joining and
overriding attributes only ever combines the names that are there.
-/

namespace Shorthand

open Text

/-! ### Attribute maps -/

namespace Attributes

variable {α β : Type}

/-- Whether everything that an attribute map sets is a name. -/
def Named (a : Attributes α) : Prop := ∀ name ∈ a.names, isName name = true

/-- The empty map sets nothing but names. -/
theorem named_empty : (empty : Attributes α).Named :=
  fun _ h ↦ absurd h List.not_mem_nil

variable {a : Attributes α} {name : Text}

/-- Setting an attribute under a name keeps a map to names. -/
theorem Named.update (h : a.Named) (hname : isName name = true) (f : Option α → α) :
    (a.update name f).Named := by
  intro n hn
  rw [names_update] at hn
  split at hn
  · exact h n hn
  · rcases List.mem_append.mp hn with hn | hn
    · exact h n hn
    · rwa [List.mem_singleton.mp hn]

/-- Removing an attribute keeps a map to names. -/
theorem Named.erase (h : a.Named) (name : Text) : (a.erase name).Named := by
  intro n hn
  rw [names_erase] at hn
  exact h n (List.mem_filter.mp hn).1

/-- Changing the values keeps a map to names. -/
theorem Named.map (h : a.Named) (f : α → β) : (a.map f).Named := by
  intro n hn
  rw [names_map] at hn
  exact h n hn

/-- Overriding adds the names of the overrides to those that are there. -/
theorem Named.override {computed overrides : Attributes AttributeValue} (h : computed.Named)
    (hoverrides : overrides.Named) : (computed.override overrides).Named := by
  have hentries : ∀ entry ∈ overrides.entries, isName entry.1 = true :=
    fun entry hentry ↦ hoverrides _ (List.mem_map_of_mem hentry)
  rw [Attributes.override]
  exact List.foldlRecOn overrides.entries _ h fun a ha entry hentry ↦
    ha.update (hentries entry hentry) _

end Attributes

/-! ### Decorations -/

/-- The id is set under a name. -/
theorem isName_idName : isName idName = true := by decide +kernel

/-- The class is set under a name. -/
theorem isName_className : isName className = true := by decide +kernel

/-- Markers decorate with ids and classes, which have names of their own. -/
theorem Marker.isName_attributeName (marker : Marker) :
    isName marker.target.attributeName = true := by
  cases marker with
  | hash => exact isName_idName
  | dot => exact isName_className

namespace Contributions

variable {collected : Contributions} {d : Decoration}

/-- Taking in a decoration with a name keeps what is collected to names. -/
theorem named_add (h : collected.Named) (hd : isName d.attributeName = true) :
    (collected.add d).Named :=
  h.update hd _

/-- Leaving out a decoration keeps what is collected to names. -/
theorem named_leaveOut (h : collected.Named) (d : Decoration) : (collected.leaveOut d).Named := by
  rw [leaveOut]
  split
  · exact h
  · exact h.erase _

/-- The attributes of decorations have the names of the decorations. -/
theorem named_ofDecorations {ds : List Decoration}
    (h : ∀ d ∈ ds, isName d.attributeName = true) : (ofDecorations ds).Named :=
  (List.foldlRecOn ds _ Attributes.named_empty fun _ ha d hd ↦ named_add ha (h d hd)).map _

end Contributions

/-! ### Segments -/

/-- Whether an element can be written for a segment: it has the name of an element, and its
attributes have names. -/
structure Segment.Named (policy : Policy) (segment : Segment) : Prop where
  tag : isName (segment.tag policy.defaultTag) = true
  attributes : ∀ d ∈ segment.decorations, isName d.attributeName = true

/-- A tag that is a name is the name of its element. -/
theorem Policy.elementName_of_isName {policy : Policy} {tag : Text} (h : isName tag = true) :
    policy.elementName tag = tag :=
  if_neg (isName_iff.mp h).1

variable {policy : Policy}

namespace Template.Grammar

private theorem Mark.Fits.isName_attributeName {mark : Mark} {after : Text}
    (h : mark.Fits after) : isName mark.decoration.attributeName = true := by
  cases mark with
  | hole marker => exact marker.isName_attributeName
  | run marker value => exact marker.isName_attributeName
  | bracket body =>
    rw [Mark.decoration]
    split
    · exact h.2.2
    · exact h.2.2

/-- A well-formed item describes an element that can be written. -/
theorem Item.WellFormed.named {item : Item} (h : item.WellFormed)
    (hdefault : isName policy.defaultTag = true) : item.segment.Named policy := by
  obtain ⟨run, marks, inner, blanks⟩ := item
  obtain ⟨⟨-, hrun, hmarks⟩, -⟩ := h
  constructor
  · rw [Segment.tag, Item.segment, Item.tag?]
    split
    · exact hdefault
    · next hne => exact hrun.resolve_left hne
  · intro d hd
    obtain ⟨mark, hmark, rfl⟩ := List.mem_map.mp hd
    obtain ⟨rest, hfits⟩ := hmarks.fits_of_mem hmark
    exact hfits.isName_attributeName

end Template.Grammar

namespace Segment

private theorem isName_of_meaning {piece : Piece} {d : Decoration} (h : piece.HasName)
    (hd : piece.meaning = some d) : isName d.attributeName = true := by
  cases piece with
  | run marker value =>
    by_cases hblank : trim value = []
    · simp [Piece.meaning, hblank] at hd
    · obtain rfl : ⟨marker.target, some (trim value), false⟩ = d := by
        simpa [Piece.meaning, hblank] using hd
      exact marker.isName_attributeName
  | bracket body =>
    obtain rfl : ⟨.attribute (trim (cutAt '=' body).1), (cutAt '=' body).2, false⟩ = d :=
      Option.some.inj hd
    exact h
  | loose c => exact nomatch hd

/-- The decorations of a segment that can be read have names. -/
theorem Readable.isName_attributeName {raw : Text} (h : Readable raw) :
    ∀ d ∈ (ofText raw).decorations, isName d.attributeName = true := by
  intro d hd
  obtain ⟨piece, hpiece, hmeaning⟩ := List.mem_filterMap.mp hd
  exact isName_of_meaning (h.hasName piece hpiece) hmeaning

/-- A segment that can be read is a splice, or it describes an element that can be written. -/
theorem Readable.named {raw : Text} (h : Readable raw)
    (hdefault : isName policy.defaultTag = true)
    (hsplice : (ofText raw).isSplice policy = false) : (ofText raw).Named policy := by
  refine ⟨?_, h.isName_attributeName⟩
  have htag := h.isTag
  simp only [isSplice, ofText, tag, tagOf?] at hsplice ⊢
  by_cases hempty : trim (Piece.leading (Piece.scan raw)) = []
  · simpa [hempty] using hdefault
  · simp only [hempty, if_false, Option.getD_some] at hsplice ⊢
    simpa [Segment.isTag, hempty, hsplice] using htag

end Segment
end Shorthand
