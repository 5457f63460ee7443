import Shorthand.Proofs.Path.Replacement
import Shorthand.Proofs.Segment.BlankRuns
import Shorthand.Proofs.Template.BlankRuns

/-!
# Blank runs in both dialects

A marker with nothing but spaces behind it means nothing in a path. In a template it contributes an
empty text, which shows where it sets an id of its own or gives an attribute without rank an earlier
place. The main statement says that otherwise the marker and the spaces can be left out of texts of
either dialect without a change of the markup.
-/

namespace Shorthand

open Text

namespace Path

/-- A path without a marker with spaces behind it expands to what it expands to with them, if the
segment around them names a tag and goes on with a decoration or ends there. -/
theorem expand_blankRun_deleted (policy : Policy) {front back : Outline} {marker : Marker}
    {spaces path result : Text} (content : Value) (overrides : Attributes AttributeValue)
    (hne : spaces ≠ []) (hspaces : ∀ c ∈ spaces, c = ' ')
    (houtline : Outline.of? path =
      some (front ++ (.plain marker.char :: Outline.plains spaces ++ back)))
    (hbehind : Outline.firstPart Outline.isSeparator back = [] ∨
      Segment.beginsDecoration
        (Outline.text (Outline.firstPart Outline.isSeparator back)) = true)
    (htag : (Segment.ofText (Outline.text (Outline.around Outline.isSeparator front
      (.plain marker.char :: Outline.plains spaces) back))).tag? ≠ none) :
    expand policy path content overrides = .ok result ↔
      expand policy (Outline.text (front ++ back)) content overrides = .ok result := by
  obtain ⟨hwf, rfl⟩ := Outline.of?_eq_some_iff.mp houtline
  obtain ⟨hfront, hmiddle, hback⟩ : front.WellFormed ∧
      Outline.WellFormed (.plain marker.char :: Outline.plains spaces) ∧ back.WellFormed := by
    rwa [Outline.wellFormed_append, Outline.wellFormed_append] at hwf
  have hlast : Outline.WellFormed (Outline.lastPart Outline.isSeparator front) :=
    fun x hx ↦ hfront x (Outline.mem_lastPart hx).1
  have hfirst : Outline.WellFormed (Outline.firstPart Outline.isSeparator back) :=
    fun x hx ↦ hback x (Outline.mem_firstPart hx).1
  have hnone : ∀ x ∈ Lexeme.plain marker.char :: Outline.plains spaces,
      Outline.isSeparator x = false := by
    rw [List.forall_mem_cons]
    refine ⟨by cases marker <;> decide, fun x hx ↦ ?_⟩
    obtain ⟨c, hc, rfl⟩ := List.mem_map.mp hx
    rw [hspaces c hc]
    decide
  have hpart : Outline.text (Outline.around Outline.isSeparator front
        (.plain marker.char :: Outline.plains spaces) back) =
      Outline.text (Outline.lastPart Outline.isSeparator front) ++
        (marker.char :: spaces ++
          Outline.text (Outline.firstPart Outline.isSeparator back)) := by
    simp [Outline.around, Lexeme.text]
  have hpart' : Outline.text (Outline.around Outline.isSeparator front [] back) =
      Outline.text (Outline.lastPart Outline.isSeparator front) ++
        Outline.text (Outline.firstPart Outline.isSeparator back) := by
    rw [Outline.around, List.nil_append, Outline.text_append]
  obtain ⟨hread, hsame, hdecorations⟩ := @Segment.blankRun_deleted _ _ spaces marker
    ⟨_, Outline.of?_text hlast⟩ ⟨_, Outline.of?_text hfirst⟩ hne hspaces
    (hbehind.imp (congrArg Outline.text) id)
  rw [hpart] at htag
  have hblank := Segment.isBlankText_of_tag htag
  have hblank' := Segment.isBlankText_of_tag (hsame ▸ htag)
  exact expand_replace ⟨hfront, hback⟩ ⟨hmiddle, hnone⟩
    ⟨Outline.wellFormed_nil, fun x hx ↦ absurd hx List.not_mem_nil⟩ hpart hpart' hblank hblank'
    hread hsame hdecorations

end Path

/-- A marker and the spaces behind it can be left out of a text of either dialect without a change
of the markup, with whatever content, overrides and arguments, if they stand outside brackets and
what they belong to names a tag.

In a path this holds for every segment that goes on with a decoration behind the spaces or ends
there. In a template it holds for every item, unless an id is set by the marker alone or the place
of an attribute without rank depends on it. -/
theorem expand_without_blankRun (policy : Policy) (marker : Marker) {spaces : Text}
    (hne : spaces ≠ []) (hspaces : ∀ c ∈ spaces, c = ' ') :
    (∀ (front back : Outline) (path : Text) (content : Value)
        (overrides : Attributes AttributeValue) (result : Text),
      Outline.of? path =
          some (front ++ (.plain marker.char :: Outline.plains spaces ++ back)) →
      (Outline.firstPart Outline.isSeparator back = [] ∨
        Segment.beginsDecoration
          (Outline.text (Outline.firstPart Outline.isSeparator back)) = true) →
      (Segment.ofText (Outline.text (Outline.around Outline.isSeparator front
        (.plain marker.char :: Outline.plains spaces) back))).tag? ≠ none →
      (Path.expand policy path content overrides = .ok result ↔
        Path.expand policy (Outline.text (front ++ back)) content overrides = .ok result)) ∧
    ∀ (spot : Template.Grammar.Spot) (template : Text) (arguments : List Value),
      spot.group.Derives template → spot.item.tag? ≠ none →
      spot.mark = .run marker spaces →
      (marker = .dot ∨ ∀ padded ∈ spot.collected? arguments,
        ∀ collected ∈ spot.others? arguments,
          idName ∈ padded.names → idName ∈ collected.names) →
      (marker.target.attributeName ∈ policy.attributeOrder ∨
        ∀ padded ∈ spot.collected? arguments, ∀ collected ∈ spot.others? arguments,
          padded.names = collected.names ∨
            marker.target.attributeName ∉ collected.names) →
      (∃ forest, Template.parse (Outline.text (spot.front ++ spot.back)) = .ok forest) ∧
        (Template.expand policy template arguments).toOption =
          (Template.expand policy (Outline.text (spot.front ++ spot.back))
            arguments).toOption := by
  constructor
  · intro front back path content overrides result houtline hbehind htag
    exact Path.expand_blankRun_deleted policy content overrides hne hspaces houtline hbehind htag
  · intro spot template arguments hderives htag hmark hset hplace
    exact Template.Grammar.expand_blankRun_deleted policy hspaces hderives htag hmark hset hplace

/-- A blank id can be left out of a path, and of a template if there is another id. -/
theorem expand_without_blankRun_hash :
    (Path.expand .standard "ul/li.x# [y]+b".toList (.text "c".toList) .empty =
        .ok "<ul><li class=\"x\" y=\"y\"></li><b>c</b></ul>".toList ↔
      Path.expand .standard "ul/li.x[y]+b".toList (.text "c".toList) .empty =
        .ok "<ul><li class=\"x\" y=\"y\"></li><b>c</b></ul>".toList) ∧
    (Template.expand .standard "b%+ul(li.x# #a)".toList [.integer 1]).toOption =
      (Template.expand .standard "b%+ul(li.x#a)".toList [.integer 1]).toOption := by
  have hlaw := expand_without_blankRun .standard .hash (by decide : " ".toList ≠ [])
    fun c hc ↦ List.mem_singleton.mp hc
  constructor
  · exact hlaw.1 (Outline.plains "ul/li.x".toList)
      (.bracket "y".toList :: Outline.plains "+b".toList) _ _ _ _ (by decide +kernel)
      (.inr (by decide +kernel)) (by decide +kernel)
  · let host : Template.Grammar.Place := .behind ⟨"b".toList, [], .hole, []⟩ .alone
    let spot : Template.Grammar.Spot := ⟨.inside "ul".toList [] [] .alone host, "li".toList,
      [.run .dot "x".toList], .run .hash " ".toList, [.run .hash "a".toList], .nothing, []⟩
    exact (hlaw.2 spot "b%+ul(li.x# #a)".toList [.integer 1] (by decide +kernel)
      (by decide +kernel) rfl (.inr (by decide +kernel)) (.inl (by decide +kernel))).2

/-- A template shows an id that is set by a marker with spaces behind it alone. -/
theorem expand_without_blankRun_id :
    ∃ spot : Template.Grammar.Spot, spot.group.Derives "p# ".toList ∧ spot.item.tag? ≠ none ∧
      spot.mark = .run .hash " ".toList ∧
      Template.expand .standard "p# ".toList [] = .ok "<p id=\"\"></p>".toList ∧
      Template.expand .standard (Outline.text (spot.front ++ spot.back)) [] =
        .ok "<p></p>".toList :=
  ⟨⟨.alone, "p".toList, [], .run .hash " ".toList, [], .nothing, []⟩, by decide +kernel,
    by decide +kernel, rfl, eq_ok_of_toOption (by decide +kernel),
    eq_ok_of_toOption (by decide +kernel)⟩

end Shorthand
