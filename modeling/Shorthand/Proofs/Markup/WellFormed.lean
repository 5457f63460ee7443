import Shorthand.Proofs.Path.Elements
import Shorthand.Proofs.Template.Elements
import Shorthand.Proofs.Template.Holes

/-!
# Well-formed markup

No shorthand and no attribute value can break the markup: the main statement says that whatever
expands is scanned as the elements that it describes, provided that what is handed in as content
holds no angle brackets and overriding attributes have names.
-/

namespace Shorthand

open Markup

private theorem Template.exists_fill_of_expand {policy : Policy} {template markup : Text}
    {arguments : List Value} (h : Template.expand policy template arguments = .ok markup) :
    ∃ forest, Template.parse template = .ok forest ∧
      ∃ rest, fill policy forest arguments = some (markup, rest) := by
  cases hparse : Template.parse template with
  | error fault => simp [Template.expand, Supply.expand, hparse] at h
  | ok forest =>
    refine ⟨forest, rfl, ?_⟩
    rw [Grammar.expand_of_parse policy arguments hparse] at h
    cases hfill : fill policy forest arguments with
    | none => simp [hfill] at h
    | some result =>
      rw [hfill] at h
      exact ⟨result.2, by rw [← Except.ok.inj h]⟩

/-- Under a policy whose default tag is a name, what a template or a path expands to is well-formed
markup, and the names of its opening tags are those of the elements that the template or the path
describes, in their order. The arguments of a template that become content, the content of a path
and the names of overriding attributes are written as they stand; everything else may be any
text. -/
theorem scan_expand (policy : Policy) (hdefault : isName policy.defaultTag = true) :
    (∀ template arguments markup, Template.expand policy template arguments = .ok markup →
      ∃ forest, Template.parse template = .ok forest ∧
        (Template.ContentSatisfies IsPlain forest.roles arguments →
          scan policy markup = some (forest.elementNames policy))) ∧
    ∀ path (content : Value) (overrides : Attributes AttributeValue) markup,
      IsPlain content.contentText → overrides.Named →
        Path.expand policy path content overrides = .ok markup →
          ∃ groups, Path.read path = .ok groups ∧
            scan policy markup = some (groups.elementNames policy) := by
  constructor
  · intro template arguments markup h
    obtain ⟨forest, hparse, rest, hfill⟩ := Template.exists_fill_of_expand h
    refine ⟨forest, hparse, fun hcontent ↦ ?_⟩
    have hwrites := Template.writesElements_of_parse hparse hdefault
    exact (hwrites arguments hcontent markup rest hfill).scan_eq
  · intro path content overrides markup hcontent hoverrides h
    obtain ⟨hreadable, rfl⟩ := Path.expand_eq_ok_iff.mp h
    have hread := Path.read_eq_ok_iff.mpr ⟨hreadable, rfl⟩
    refine ⟨_, hread, ?_⟩
    exact (Path.reads_markup (Path.named_of_read hread hdefault) hoverrides hcontent).scan_eq

/-- An argument that would end its attribute and its tag if it was not escaped, an element inside a
void one, and a path with an overriding attribute. -/
theorem scan_expand_quoted :
    isName Policy.standard.defaultTag = true ∧
      scan .standard "<a href=\"&quot;&gt;&lt;b&gt;\"><i>x</i></a><br>".toList =
        some (["a", "i", "br"].map String.toList) ∧
      scan .standard "<ul lang><li></li><li>y</li></ul>".toList =
        some (["ul", "li", "li"].map String.toList) := by
  have hdefault : isName Policy.standard.defaultTag = true := by decide +kernel
  obtain ⟨htemplate, hpath⟩ := scan_expand .standard hdefault
  refine ⟨hdefault, ?_, ?_⟩
  · have hexpand : Template.expand .standard "a[href=%](i%)+br(b)".toList
        [.text "\"><b>".toList, .text "x".toList] =
          .ok "<a href=\"&quot;&gt;&lt;b&gt;\"><i>x</i></a><br>".toList :=
      eq_ok_of_toOption (by decide +kernel)
    obtain ⟨forest, hparse, hscan⟩ := htemplate _ _ _ hexpand
    have hforest : (Template.parse "a[href=%](i%)+br(b)".toList).toOption.map
        (fun forest ↦ (forest.roles, forest.elementNames .standard)) =
          some ([.decoration, .content], ["a", "i", "br"].map String.toList) := by
      decide +kernel
    rw [hparse] at hforest
    obtain ⟨hroles, hnames⟩ := Prod.mk.inj (Option.some.inj hforest)
    rw [hroles, hnames] at hscan
    exact hscan (by decide +kernel)
  · have hlang : ((Attributes.empty : Attributes AttributeValue).set "lang".toList
        (.one (.boolean true))).Named :=
      Attributes.named_empty.update (by decide +kernel) _
    have hexpand : Path.expand .standard "ul/li+li".toList (.text "y".toList)
        (Attributes.empty.set "lang".toList (.one (.boolean true))) =
          .ok "<ul lang><li></li><li>y</li></ul>".toList :=
      eq_ok_of_toOption (by decide +kernel)
    obtain ⟨groups, hread, hscan⟩ := hpath _ _ _ _ (by decide) hlang hexpand
    have hgroups : (Path.read "ul/li+li".toList).toOption.map (Path.elementNames .standard) =
        some (["ul", "li", "li"].map String.toList) := by
      decide +kernel
    rw [hread] at hgroups
    rw [hscan]
    exact hgroups

end Shorthand
