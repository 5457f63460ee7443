import Shorthand.Proofs.Markup.Names

/-!
# Scanning markup

Markup is scanned character by character, with the names of the elements that are open on a stack.
A scan of a whole text succeeds if every tag is well formed, every closing tag closes the element
that was opened last, no angle bracket stands outside of tags, and no element is open at the end.
The main statement says what an element is scanned as: its own name and, unless it is void, the
names in its content, with the stack as it was.
-/

namespace Shorthand

namespace Markup

/-- Where a scan stands: between tags, behind the bracket that begins a tag, or in a part of an
opening or closing tag. -/
inductive Stage where
  | between
  | began
  | opening (tag : Text)
  | spaced (tag : Text)
  | attributeName (tag : Text)
  | assigned (tag : Text)
  | value (tag : Text)
  | valued (tag : Text)
  | closing (tag : Text)
  deriving DecidableEq, Repr

/-- A scan that is under way: the elements that are open, the innermost first, and the names of
the opening tags so far, the first one first. -/
structure Scan where
  stage : Stage
  stack : List Text
  names : List Text
  deriving DecidableEq, Repr

namespace Scan

/-- The scan before anything has been read. -/
def start : Scan := ⟨.between, [], []⟩

/-- The scan behind an opening tag. A void element is not left open. -/
def push (policy : Policy) (tag : Text) (s : Scan) : Scan where
  stage := .between
  stack := if policy.isVoid tag then s.stack else tag :: s.stack
  names := s.names ++ [tag]

/-- The scan behind a closing tag, which has to close the innermost element. -/
def pop? (tag : Text) (s : Scan) : Option Scan :=
  match s.stack with
  | [] => none
  | top :: outer => if top = tag then some ⟨.between, outer, s.names⟩ else none

/-- Read what follows the name or an attribute of an opening tag: the space in front of another
attribute, or the bracket that ends the tag. -/
def readBehind (policy : Policy) (tag : Text) (s : Scan) (c : Char) : Option Scan :=
  if c = ' ' then some { s with stage := .spaced tag }
  else if c = '>' then some (s.push policy tag)
  else none

/-- Read a character. -/
def step (policy : Policy) (s : Scan) (c : Char) : Option Scan :=
  match s.stage with
  | .between =>
    if c = '<' then some { s with stage := .began } else if c = '>' then none else some s
  | .began =>
    if isNameChar c then some { s with stage := .opening [c] }
    else if c = '/' then some { s with stage := .closing [] }
    else none
  | .opening tag =>
    if isNameChar c then some { s with stage := .opening (tag ++ [c]) }
    else s.readBehind policy tag c
  | .spaced tag => if isNameChar c then some { s with stage := .attributeName tag } else none
  | .attributeName tag =>
    if isNameChar c then some s
    else if c = '=' then some { s with stage := .assigned tag }
    else s.readBehind policy tag c
  | .assigned tag => if c = '"' then some { s with stage := .value tag } else none
  | .value tag =>
    if c = '"' then some { s with stage := .valued tag }
    else if c = '<' ∨ c = '>' then none
    else some s
  | .valued tag => s.readBehind policy tag c
  | .closing tag =>
    if isNameChar c then some { s with stage := .closing (tag ++ [c]) }
    else if c = '>' then s.pop? tag
    else none

/-- Read a text. -/
def run (policy : Policy) (s : Scan) (text : Text) : Option Scan := text.foldlM (step policy) s

end Scan

/-- The names of the opening tags in well-formed markup from left to right. -/
def scan (policy : Policy) (text : Text) : Option (List Text) :=
  match Scan.start.run policy text with
  | some ⟨.between, [], names⟩ => some names
  | _ => none

example : scan .standard "<a x=\"y\" z>b<br></a><c></c>".toList =
    some (["a", "br", "c"].map String.toList) := by decide +kernel

example : scan .standard "<a></b>".toList = none := by decide +kernel

/-- Whether a text holds no angle bracket, so that it begins and ends no tag. -/
def IsPlain (text : Text) : Prop := ∀ c ∈ text, c ≠ '<' ∧ c ≠ '>'

/-- A text is searched for angle brackets. -/
instance : DecidablePred IsPlain := List.decidableBAll fun c ↦ c ≠ '<' ∧ c ≠ '>'

namespace Scan

variable {policy : Policy} {tag name : Text} {stack names : List Text}

/-- A scan reads the first character and goes on with the rest. -/
theorem run_cons (policy : Policy) (s : Scan) (c : Char) (rest : Text) :
    s.run policy (c :: rest) = (s.step policy c).bind (·.run policy rest) :=
  List.foldlM_cons

/-! ### Stretches of a text -/

private theorem run_append_of_step {s : Scan} {text : Text}
    (h : ∀ c ∈ text, s.step policy c = some s) (rest : Text) :
    s.run policy (text ++ rest) = s.run policy rest := by
  induction text with
  | nil => rfl
  | cons c text ih =>
    rw [List.cons_append, run_cons, h c (List.mem_cons_self ..)]
    exact ih fun d hd ↦ h d (List.mem_cons_of_mem _ hd)

private theorem run_append_of_collects {stage : Text → Stage} {text : Text}
    (h : ∀ part, ∀ c ∈ text, step policy ⟨stage part, stack, names⟩ c =
      some ⟨stage (part ++ [c]), stack, names⟩) (part rest : Text) :
    run policy ⟨stage part, stack, names⟩ (text ++ rest) =
      run policy ⟨stage (part ++ text), stack, names⟩ rest := by
  induction text generalizing part with
  | nil => rw [List.nil_append, List.append_nil]
  | cons c text ih =>
    have hothers := ih (fun part d hd ↦ h part d (List.mem_cons_of_mem _ hd)) (part ++ [c])
    rw [List.cons_append, run_cons, h part c (List.mem_cons_self ..), Option.bind_some, hothers,
      List.append_assoc]
    rfl

/-! ### Opening tags -/

/-- Whether a scan stands behind the name or an attribute of an opening tag, for all it knows. -/
def BehindPart (tag : Text) : Stage → Prop
  | .opening t => t = tag
  | .attributeName t => t = tag
  | .valued t => t = tag
  | _ => False

private theorem step_of_behindPart {stage : Stage} {c : Char} (h : BehindPart tag stage)
    (hc : c = ' ' ∨ c = '>') :
    step policy ⟨stage, stack, names⟩ c =
      readBehind policy tag ⟨stage, stack, names⟩ c := by
  have hname : isNameChar c = false ∧ c ≠ '=' := by
    rcases hc with rfl | rfl <;> decide +kernel
  cases stage with
  | opening t =>
    obtain rfl : t = tag := h
    simp [step, hname]
  | attributeName t =>
    obtain rfl : t = tag := h
    simp [step, hname]
  | valued t =>
    obtain rfl : t = tag := h
    rfl
  | _ => exact h.elim

private theorem run_attributeName (h : isName name = true) (rest : Text) :
    run policy ⟨.spaced tag, stack, names⟩ (name ++ rest) =
      run policy ⟨.attributeName tag, stack, names⟩ rest := by
  obtain ⟨hne, hchars⟩ := isName_iff.mp h
  cases name with
  | nil => exact absurd rfl hne
  | cons c name =>
    have hfirst : step policy ⟨.spaced tag, stack, names⟩ c =
        some ⟨.attributeName tag, stack, names⟩ := if_pos (hchars c (List.mem_cons_self ..))
    have hothers : ∀ d ∈ name, step policy ⟨.attributeName tag, stack, names⟩ d =
        some ⟨.attributeName tag, stack, names⟩ :=
      fun d hd ↦ if_pos (hchars d (List.mem_cons_of_mem _ hd))
    rw [List.cons_append, run_cons, hfirst]
    exact run_append_of_step hothers rest

private theorem run_attributeValue (value rest : Text) :
    run policy ⟨.attributeName tag, stack, names⟩
        ("=\"".toList ++ escape value ++ "\"".toList ++ rest) =
      run policy ⟨.valued tag, stack, names⟩ rest := by
  have hvalue : ∀ c ∈ escape value, step policy ⟨.value tag, stack, names⟩ c =
      some ⟨.value tag, stack, names⟩ := by
    intro c hc
    obtain ⟨hquote, -, hopen, hclose⟩ := mem_escape hc
    simp [step, hquote, hopen, hclose]
  have hassign : ∀ rest, run policy ⟨.attributeName tag, stack, names⟩ ('=' :: '"' :: rest) =
      run policy ⟨.value tag, stack, names⟩ rest := by
    intro rest
    have hequals : isNameChar '=' = false := by decide +kernel
    simp [run_cons, step, hequals]
  calc run policy ⟨.attributeName tag, stack, names⟩
        ("=\"".toList ++ escape value ++ "\"".toList ++ rest)
      = run policy ⟨.attributeName tag, stack, names⟩
          ('=' :: '"' :: (escape value ++ '"' :: rest)) := by simp
    _ = run policy ⟨.value tag, stack, names⟩ ('"' :: rest) := by
        rw [hassign, run_append_of_step hvalue]
    _ = run policy ⟨.valued tag, stack, names⟩ rest := rfl

private theorem run_appearance {stage : Stage} (h : BehindPart tag stage)
    (hname : isName name = true) (appearance : Appearance) :
    ∃ stage', BehindPart tag stage' ∧ ∀ rest,
      run policy ⟨stage, stack, names⟩ (appearance.text name ++ rest) =
        run policy ⟨stage', stack, names⟩ rest := by
  have hspace : ∀ rest, run policy ⟨stage, stack, names⟩ (' ' :: (name ++ rest)) =
      run policy ⟨.attributeName tag, stack, names⟩ rest := by
    intro rest
    rw [run_cons, step_of_behindPart h (.inl rfl)]
    exact run_attributeName hname rest
  cases appearance with
  | bare => exact ⟨.attributeName tag, rfl, hspace⟩
  | quoted value =>
    refine ⟨.valued tag, rfl, fun rest ↦ ?_⟩
    have hassoc : (Appearance.quoted value).text name ++ rest =
        ' ' :: (name ++ ("=\"".toList ++ escape value ++ "\"".toList ++ rest)) := by
      simp [Appearance.text]
    rw [hassoc, hspace, run_attributeValue]

private theorem run_appearances {stage : Stage} {entries : List (Text × Appearance)}
    (h : BehindPart tag stage) (hnames : ∀ entry ∈ entries, isName entry.1 = true) :
    ∃ stage', BehindPart tag stage' ∧ ∀ rest,
      run policy ⟨stage, stack, names⟩
          (entries.flatMap (fun entry ↦ entry.2.text entry.1) ++ rest) =
        run policy ⟨stage', stack, names⟩ rest := by
  induction entries generalizing stage with
  | nil => exact ⟨stage, h, fun _ ↦ rfl⟩
  | cons entry entries ih =>
    obtain ⟨middle, hmiddle, hentry⟩ :=
      run_appearance h (hnames entry (List.mem_cons_self ..)) entry.2
    obtain ⟨last, hlast, hentries⟩ := ih hmiddle fun e he ↦ hnames e (List.mem_cons_of_mem _ he)
    refine ⟨last, hlast, fun rest ↦ ?_⟩
    rw [List.flatMap_cons, List.append_assoc, hentry, hentries]

private theorem run_tagName (h : isName tag = true) (rest : Text) :
    run policy ⟨.between, stack, names⟩ ('<' :: (tag ++ rest)) =
      run policy ⟨.opening tag, stack, names⟩ rest := by
  obtain ⟨hne, hchars⟩ := isName_iff.mp h
  cases tag with
  | nil => exact absurd rfl hne
  | cons c tag =>
    have hfirst : step policy ⟨.began, stack, names⟩ c = some ⟨.opening [c], stack, names⟩ :=
      if_pos (hchars c (List.mem_cons_self ..))
    have hothers : ∀ part, ∀ d ∈ tag, step policy ⟨.opening part, stack, names⟩ d =
        some ⟨.opening (part ++ [d]), stack, names⟩ :=
      fun part d hd ↦ if_pos (hchars d (List.mem_cons_of_mem _ hd))
    change run policy ⟨.began, stack, names⟩ (c :: (tag ++ rest)) = _
    rw [run_cons, hfirst]
    exact run_append_of_collects hothers [c] rest

private theorem mem_names_of_mem_appearances {attributes : Attributes AttributeValue}
    {entry : Text × Appearance} (h : entry ∈ policy.appearances attributes) :
    entry.1 ∈ attributes.names := by
  obtain ⟨source, hsource, happears⟩ := List.mem_filterMap.mp h
  obtain ⟨appearance, -, rfl⟩ := Option.map_eq_some_iff.mp happears
  exact List.mem_map_of_mem ((policy.inOrder_perm Prod.fst _).mem_iff.mp hsource)

private theorem run_openTag {attributes : Attributes AttributeValue}
    (htag : isName (policy.elementName tag) = true)
    (hnames : attributes.Named) (rest : Text) :
    run policy ⟨.between, stack, names⟩ (policy.openTag tag attributes ++ rest) =
      (push policy (policy.elementName tag) ⟨.between, stack, names⟩).run policy rest := by
  have hentries : ∀ entry ∈ policy.appearances attributes, isName entry.1 = true :=
    fun entry hentry ↦ hnames _ (mem_names_of_mem_appearances hentry)
  have hbegin : BehindPart (policy.elementName tag) (.opening (policy.elementName tag)) := rfl
  obtain ⟨stage, hstage, hattributes⟩ :=
    @run_appearances policy _ stack names _ _ hbegin hentries
  have hassoc : policy.openTag tag attributes ++ rest =
      '<' :: (policy.elementName tag ++ (policy.attributeText attributes ++ '>' :: rest)) := by
    simp [Policy.openTag]
  rw [hassoc, run_tagName htag, Policy.attributeText, hattributes, run_cons,
    step_of_behindPart hstage (.inr rfl)]
  rfl

/-! ### Closing tags -/

private theorem run_closeTag (htag : isName (policy.elementName tag) = true) (rest : Text) :
    run policy ⟨.between, policy.elementName tag :: stack, names⟩ (policy.closeTag tag ++ rest) =
      run policy ⟨.between, stack, names⟩ rest := by
  have hassoc : policy.closeTag tag ++ rest =
      '<' :: '/' :: (policy.elementName tag ++ '>' :: rest) := by
    simp [Policy.closeTag]
  have hslash : isNameChar '/' = false := by decide +kernel
  have hbegin : ∀ rest, run policy ⟨.between, policy.elementName tag :: stack, names⟩
      ('<' :: '/' :: rest) =
        run policy ⟨.closing [], policy.elementName tag :: stack, names⟩ rest := by
    intro rest
    simp [run_cons, step, hslash]
  have hname : ∀ part, ∀ c ∈ policy.elementName tag,
      step policy ⟨.closing part, policy.elementName tag :: stack, names⟩ c =
        some ⟨.closing (part ++ [c]), policy.elementName tag :: stack, names⟩ :=
    fun part c hc ↦ if_pos ((isName_iff.mp htag).2 c hc)
  have hend : isNameChar '>' = false := by decide +kernel
  rw [hassoc, hbegin, run_append_of_collects hname, List.nil_append, run_cons]
  simp [step, hend, pop?]

end Scan

/-! ### What markup is read as -/

/-- Whether a text is read, between whatever else, as opening tags of the given names, all of them
closed again unless they are void. -/
def Reads (policy : Policy) (text : Text) (names : List Text) : Prop :=
  ∀ stack earlier rest,
    Scan.run policy ⟨.between, stack, earlier⟩ (text ++ rest) =
      Scan.run policy ⟨.between, stack, earlier ++ names⟩ rest

namespace Reads

variable {policy : Policy} {a b : Text} {names names' : List Text}

/-- A text that is read between other texts is read alone. -/
theorem scan_eq (h : Reads policy a names) : scan policy a = some names := by
  have hrun : Scan.start.run policy a = some ⟨.between, [], names⟩ := by
    have hall := h [] [] []
    rwa [List.append_nil, List.nil_append] at hall
  rw [scan, hrun]

/-- The empty text is read as nothing. -/
theorem nil (policy : Policy) : Reads policy [] [] := by
  intro stack earlier rest
  rw [List.append_nil, List.nil_append]

/-- Texts one behind the other are read one after the other. -/
theorem append (h : Reads policy a names) (h' : Reads policy b names') :
    Reads policy (a ++ b) (names ++ names') := by
  intro stack earlier rest
  rw [List.append_assoc, h, h', List.append_assoc]

/-- A text without angle brackets is read over. -/
theorem of_isPlain (h : IsPlain a) : Reads policy a [] := by
  intro stack earlier rest
  rw [List.append_nil]
  exact Scan.run_append_of_step
    (fun c hc ↦ by simp [Scan.step, (h c hc).1, (h c hc).2]) rest

/-- An element is read as its name and what its content is read as; the content of a void element
is not there. -/
theorem element {e : Element} (htag : isName (policy.elementName e.tag) = true)
    (hnames : e.attributes.Named)
    (hcontent : Reads policy e.content names) :
    Reads policy (e.markup policy) (policy.elementName e.tag ::
      if policy.isVoid (policy.elementName e.tag) then [] else names) := by
  intro stack earlier rest
  cases hvoid : policy.isVoid (policy.elementName e.tag) with
  | true =>
    rw [Element.markup_of_isVoid hvoid, Scan.run_openTag htag hnames]
    simp [Scan.push, hvoid]
  | false =>
    rw [Element.markup_of_not_isVoid hvoid, List.append_assoc, List.append_assoc,
      Scan.run_openTag htag hnames]
    simp only [Scan.push, hvoid, Bool.false_eq_true, if_false]
    rw [hcontent, Scan.run_closeTag htag, List.append_assoc]
    rfl

end Reads
end Markup

namespace Segment

open Markup

variable {policy : Policy} {segment : Segment}

/-- The name of the element that a segment describes in front of the names `inside` it. A void
element has nothing inside. -/
def namesAround (policy : Policy) (inside : List Text) (segment : Segment) : List Text :=
  segment.tag policy.defaultTag ::
    if policy.isVoid (segment.tag policy.defaultTag) then [] else inside

/-- The element of a segment is read as its name around what its content is read as. -/
theorem Named.reads (h : segment.Named policy) {attributes : Attributes AttributeValue}
    (hattributes : attributes.Named) {content : Text} {names : List Text}
    (hcontent : Reads policy content names) :
    Reads policy (Element.markup policy ⟨segment.tag policy.defaultTag, attributes, content⟩)
      (segment.namesAround policy names) := by
  have hname : policy.elementName (segment.tag policy.defaultTag) =
      segment.tag policy.defaultTag := Policy.elementName_of_isName h.tag
  have htag : isName (policy.elementName (segment.tag policy.defaultTag)) = true :=
    hname.symm ▸ h.tag
  have helement := @Reads.element policy names
    ⟨segment.tag policy.defaultTag, attributes, content⟩ htag hattributes hcontent
  rwa [hname] at helement

end Segment
end Shorthand
