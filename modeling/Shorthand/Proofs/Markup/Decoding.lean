import Mathlib.Data.List.Basic
import Shorthand.Proofs.Markup.Names
import Shorthand.Proofs.Markup.Order
import Shorthand.Proofs.Text.Stretch

/-!
# Reading attributes back

The attributes in an opening tag can be told from their text. A reader takes a space and a name,
and behind an equals sign the text up to the next quotation mark, in which it resolves the character
references. The main statement says that it finds the attributes that a map shows, in their order,
whatever the policy and the values are, so that different attributes are never written alike.
-/

namespace Shorthand

namespace Markup

open Text

/-- A text with its character references resolved. -/
def unescape : Text → Text
  | '&' :: 'a' :: 'm' :: 'p' :: ';' :: rest => '&' :: unescape rest
  | '&' :: 'l' :: 't' :: ';' :: rest => '<' :: unescape rest
  | '&' :: 'g' :: 't' :: ';' :: rest => '>' :: unescape rest
  | '&' :: 'q' :: 'u' :: 'o' :: 't' :: ';' :: rest => '"' :: unescape rest
  | '&' :: '#' :: 'x' :: '2' :: '7' :: ';' :: rest => '\'' :: unescape rest
  | c :: rest => c :: unescape rest
  | [] => []

private theorem unescape_cons {c : Char} (h : c ≠ '&') (rest : Text) :
    unescape (c :: rest) = c :: unescape rest := by
  conv => lhs; unfold unescape
  split <;> simp_all

private theorem unescape_escapeChar_append (c : Char) (rest : Text) :
    unescape (escapeChar c ++ rest) = c :: unescape rest := by
  by_cases hamp : c = '&'
  · subst hamp; rfl
  by_cases hlt : c = '<'
  · subst hlt; rfl
  by_cases hgt : c = '>'
  · subst hgt; rfl
  by_cases hquote : c = '"'
  · subst hquote; rfl
  by_cases hapostrophe : c = '\''
  · subst hapostrophe; rfl
  have hplain : escapeChar c = [c] := by simp [escapeChar, hamp, hlt, hgt, hquote, hapostrophe]
  rw [hplain]
  exact unescape_cons hamp rest

/-- Resolving the references in an escaped text gives the text. -/
theorem unescape_escape (s : Text) : unescape (escape s) = s := by
  induction s with
  | nil => rfl
  | cons c s ih =>
    rw [escape, List.flatMap_cons, ← escape, unescape_escapeChar_append, ih]

/-- Read what stands behind the name of an attribute: a value, if there is an equals sign. -/
def readAppearance (s : Text) : Option (Appearance × Text) :=
  match s with
  | '=' :: '"' :: s =>
    match cutAt '"' s with
    | (value, some rest) => some (.quoted (unescape value), rest)
    | (_, none) => none
  | _ => some (.bare, s)

/-- Read the attribute that a text begins with. -/
def readAttribute (s : Text) : Option ((Text × Appearance) × Text) :=
  match s with
  | ' ' :: s =>
    (readAppearance (s.dropWhile isNameChar)).map fun (appearance, rest) ↦
      ((s.takeWhile isNameChar, appearance), rest)
  | _ => none

/-- Read the attributes that a text consists of, at most `bound` of them. The length of the text
is always bound enough. -/
def readAttributes : Nat → Text → Option (List (Text × Appearance))
  | _, [] => some []
  | 0, _ :: _ => none
  | bound + 1, s => do
    let (entry, rest) ← readAttribute s
    let others ← readAttributes bound rest
    return entry :: others

/-- Read the part of an opening tag behind the element's name. -/
def decode (s : Text) : Option (List (Text × Appearance)) := readAttributes s.length s

/-- Whether a text ends an attribute: it is empty or begins with a space. -/
def EndsAttribute (s : Text) : Prop := ∀ c ∈ s.head?, c = ' '

private theorem head?_text_append (appearance : Appearance) (name rest : Text) :
    (appearance.text name ++ rest).head? = some ' ' := by
  cases appearance <;> rfl

/-- An attribute is read back from its text in front of a text that ends it. -/
theorem readAttribute_text {name rest : Text} (hname : isName name = true)
    (hrest : EndsAttribute rest) (appearance : Appearance) :
    readAttribute (appearance.text name ++ rest) = some ((name, appearance), rest) := by
  have hchars := (isName_iff.mp hname).2
  cases appearance with
  | bare =>
    have hstretch : IsStretch isNameChar name rest := by
      refine ⟨hchars, fun c hc ↦ ?_⟩
      rw [hrest c hc]
      decide +kernel
    have hnone : readAppearance rest = some (.bare, rest) := by
      unfold readAppearance
      split
      · exact absurd (hrest '=' rfl) (by decide)
      · rfl
    rw [Appearance.text, List.cons_append, readAttribute, hstretch.dropWhile_eq,
      hstretch.takeWhile_eq, hnone]
    rfl
  | quoted value =>
    have hstretch : IsStretch isNameChar name ('=' :: '"' :: (escape value ++ '"' :: rest)) := by
      refine ⟨hchars, fun c hc ↦ ?_⟩
      obtain rfl : '=' = c := Option.some.inj hc
      decide +kernel
    have hquote : '"' ∉ escape value := fun hmem ↦ (mem_escape hmem).1 rfl
    have hvalue : readAppearance ('=' :: '"' :: (escape value ++ '"' :: rest)) =
        some (.quoted value, rest) := by
      rw [readAppearance, cutAt_append rest hquote]
      exact congrArg (fun text ↦ some (Appearance.quoted text, rest)) (unescape_escape value)
    have htext : (Appearance.quoted value).text name ++ rest =
        ' ' :: (name ++ '=' :: '"' :: (escape value ++ '"' :: rest)) := by
      simp [Appearance.text]
    rw [htext, readAttribute, hstretch.dropWhile_eq, hstretch.takeWhile_eq, hvalue]
    rfl

/-- Attributes one behind the other are read back, if the bound allows for their number. -/
theorem readAttributes_text {entries : List (Text × Appearance)} {bound : Nat}
    (hnames : ∀ entry ∈ entries, isName entry.1 = true) (hbound : entries.length ≤ bound) :
    readAttributes bound (entries.flatMap fun entry ↦ entry.2.text entry.1) = some entries := by
  induction entries generalizing bound with
  | nil => cases bound <;> rfl
  | cons entry entries ih =>
    obtain ⟨bound, rfl⟩ : ∃ n, bound = n + 1 := ⟨bound - 1, by simp at hbound; omega⟩
    have hends : EndsAttribute (entries.flatMap fun entry ↦ entry.2.text entry.1) := by
      intro c hc
      cases entries with
      | nil => exact absurd hc (by simp)
      | cons next entries =>
        rw [List.flatMap_cons, head?_text_append] at hc
        exact (Option.some.inj hc).symm
    have hentry := readAttribute_text (hnames entry (List.mem_cons_self ..)) hends entry.2
    have hothers := ih (fun e he ↦ hnames e (List.mem_cons_of_mem _ he))
      (Nat.le_of_succ_le_succ hbound)
    rw [List.flatMap_cons, readAttributes, hentry]
    · simp only [Option.bind_eq_bind, Option.bind_some, hothers]
      rfl
    · intro hnil
      have hhead := head?_text_append entry.2 entry.1
        (entries.flatMap fun entry ↦ entry.2.text entry.1)
      rw [hnil] at hhead
      exact absurd hhead nofun

private theorem length_le_length_flatMap (entries : List (Text × Appearance)) :
    entries.length ≤ (entries.flatMap fun entry ↦ entry.2.text entry.1).length := by
  induction entries with
  | nil => exact Nat.le_refl 0
  | cons entry entries ih =>
    have hpos : 0 < (entry.2.text entry.1).length := by cases entry.2 <;> exact Nat.succ_pos _
    rw [List.flatMap_cons, List.length_append, List.length_cons]
    omega

/-- Attributes under names are read back from their text. -/
theorem decode_text {entries : List (Text × Appearance)}
    (hnames : ∀ entry ∈ entries, isName entry.1 = true) :
    decode (entries.flatMap fun entry ↦ entry.2.text entry.1) = some entries :=
  readAttributes_text hnames (length_le_length_flatMap entries)

end Markup

/-! ### What an opening tag shows -/

namespace Number

private theorem integerText_ne_nil (n : Int) : integerText n ≠ [] := by
  cases n with
  | ofNat n => exact Nat.toDigits_ne_nil
  | negSucc n => exact List.cons_ne_nil _ _

private theorem layout_text_ne_nil {layout : Layout} (hinfinity : layout.infinity ≠ [])
    (hnan : layout.nan ≠ []) (x : Binary64) : layout.text x ≠ [] := by
  have hdecimal : ∀ d : Decimal, layout.decimalText d ≠ [] := by
    intro d
    unfold Layout.decimalText Layout.positional
    split <;> simp
  rw [Layout.text]
  split
  · exact List.cons_ne_nil _ _
  · split
    · exact hnan
    · exact hinfinity
    · exact hdecimal _

end Number

/-- Only the empty text has no text. -/
theorem Value.toText_eq_nil_iff {v : Value} : v.toText = [] ↔ v = .text [] := by
  constructor
  · intro h
    match v with
    | .null => exact absurd h (by decide)
    | .boolean true => exact absurd h (by decide)
    | .boolean false => exact absurd h (by decide)
    | .integer n => exact absurd h (Number.integerText_ne_nil n)
    | .real x => exact absurd h (Number.layout_text_ne_nil (by decide) (by decide) x)
    | .text t => exact congrArg Value.text h
  · rintro rfl
    rfl

namespace AttributeValue

/-- Whether a value leaves its attribute out: a missing or a false one does, and of the class also
an empty text and classes that join to one. -/
def isSkipped (name : Text) : AttributeValue → Bool
  | .one .null => true
  | .one (.boolean false) => true
  | .one (.text []) => name = className
  | .several vs => name = className ∧ (several vs).classText = []
  | _ => false

/-- How an attribute appears that is not left out: bare if it is true, and else with the text of its
value. -/
def appearance (name : Text) : AttributeValue → Appearance
  | .one (.boolean true) => .bare
  | value => .quoted (value.textUnder name)

/-- An attribute appears unless its value leaves it out. -/
theorem of?_eq (name : Text) (value : AttributeValue) :
    Appearance.of? name value =
      if value.isSkipped name then none else some (value.appearance name) := by
  have hshown : ∀ v : Value, v ≠ .text [] → v.toText ≠ [] := fun v hv h ↦
    hv (Value.toText_eq_nil_iff.mp h)
  match value with
  | .one .null => rfl
  | .one (.boolean true) => rfl
  | .one (.boolean false) => rfl
  | .one (.integer n) => simp [Appearance.of?, isSkipped, appearance, hshown]
  | .one (.real x) => simp [Appearance.of?, isSkipped, appearance, hshown]
  | .one (.text []) => simp [Appearance.of?, isSkipped, appearance]
  | .one (.text (c :: t)) => simp [Appearance.of?, isSkipped, appearance]
  | .several vs =>
    by_cases hname : name = className
    · simp [Appearance.of?, isSkipped, appearance, textUnder, hname]
    · simp [Appearance.of?, isSkipped, appearance, hname]

end AttributeValue

namespace Policy

/-- The attributes of a map that are not left out, in the order of the policy. -/
def shown (policy : Policy) (attributes : Attributes AttributeValue) : List (Text × Appearance) :=
  (policy.inOrder id attributes.names).filterMap fun name ↦
    (attributes.get? name).bind fun value ↦
      if value.isSkipped name then none else some (name, value.appearance name)

/-- The attributes that appear are those that are not left out. -/
theorem appearances_eq_shown (policy : Policy) (attributes : Attributes AttributeValue) :
    policy.appearances attributes = policy.shown attributes := by
  have hnames : policy.inOrder id attributes.names =
      (policy.inOrder Prod.fst attributes.entries).map Prod.fst :=
    (policy.map_inOrder Prod.fst attributes.entries).symm
  rw [appearances, shown, hnames, List.filterMap_map]
  apply List.filterMap_congr
  intro entry hentry
  have hmem := (policy.inOrder_perm Prod.fst attributes.entries).mem_iff.mp hentry
  have hget : attributes.get? entry.1 = some entry.2 := Attributes.get?_of_mem hmem
  rw [Function.comp_apply, hget, Option.bind_some, AttributeValue.of?_eq]
  cases entry.2.isSkipped entry.1 <;> rfl

private theorem mem_names_of_mem_shown {policy : Policy} {attributes : Attributes AttributeValue}
    {entry : Text × Appearance} (h : entry ∈ policy.shown attributes) :
    entry.1 ∈ attributes.names := by
  obtain ⟨name, hname, hshown⟩ := List.mem_filterMap.mp h
  obtain ⟨value, -, hvalue⟩ := Option.bind_eq_some_iff.mp hshown
  split at hvalue
  · exact absurd hvalue nofun
  · obtain rfl := Option.some.inj hvalue
    exact (policy.inOrder_perm id _).mem_iff.mp hname

/-- Under names, attributes are read back from their text as those that are not left out, in the
order of the policy, each with its bare name or with the text of its value. Attributes that differ
in this are therefore not written alike, under one policy or under two. -/
theorem decode_attributeText (policy : Policy) {attributes : Attributes AttributeValue}
    (hnamed : attributes.Named) :
    Markup.decode (policy.attributeText attributes) = some (policy.shown attributes) ∧
      ∀ (policy' : Policy) (attributes' : Attributes AttributeValue), attributes'.Named →
        policy.attributeText attributes = policy'.attributeText attributes' →
          policy.shown attributes = policy'.shown attributes' := by
  have hdecode : ∀ (policy : Policy) (attributes : Attributes AttributeValue), attributes.Named →
      Markup.decode (policy.attributeText attributes) = some (policy.shown attributes) := by
    intro policy attributes hnamed
    rw [attributeText, appearances_eq_shown]
    exact Markup.decode_text fun entry hentry ↦ hnamed _ (mem_names_of_mem_shown hentry)
  refine ⟨hdecode policy attributes hnamed, fun policy' attributes' hnamed' htext ↦ ?_⟩
  apply Option.some.inj
  rw [← hdecode policy attributes hnamed, htext, hdecode policy' attributes' hnamed']

/-- A value that looks like further attributes is read back as one. -/
theorem decode_attributeText_quoted :
    let attributes : Attributes AttributeValue := .ofList
      [("title".toList, .one (.text "a\" lang=\"&quot;<b>".toList)),
        ("data:n-1".toList, .one (.integer (-3))), ("lang".toList, .one .null),
        ("checked".toList, .one (.boolean true)),
        (className, .several [.text "x&amp;".toList, .null, .integer 0, .text "y".toList]),
        (idName, .one (.text []))]
    attributes.Named ∧
      Markup.decode (Policy.standard.attributeText attributes) =
        some [(idName, .quoted []), (className, .quoted "x&amp; y".toList),
          ("checked".toList, .bare), ("title".toList, .quoted "a\" lang=\"&quot;<b>".toList),
          ("data:n-1".toList, .quoted "-3".toList)] := by
  intro attributes
  have hnamed : attributes.Named := by
    have hall : (attributes.names.all fun name ↦ isName name) = true := by decide +kernel
    exact fun name hname ↦ List.all_eq_true.mp hall name hname
  exact ⟨hnamed, (decode_attributeText .standard hnamed).1.trans (by decide +kernel)⟩

end Policy
end Shorthand
