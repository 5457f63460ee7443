import Shorthand.Proofs.Path.Faults

/-!
# The places of parts

Where a text is cut depends only on the characters in front of each place. The main statement says
that the groups of a path and their segments are found by cutting the path once at all its
separators outside brackets, that every part stands where its offset tells, and that nothing but
blanks and these separators is left between the parts.
-/

namespace Shorthand

open Text

namespace Part

/-- Whether a text is cut at a place: a separator stands there, and no bracket is open behind what
is in front of it. -/
def IsCut (isSeparator : Char → Bool) (s : Text) (place : Nat) : Prop :=
  s[place]?.any isSeparator = true ∧ depthBehind 0 (s.take place) = 0

/-- The character at a place and the text in front of it tell whether it is a cut. -/
instance (isSeparator : Char → Bool) (s : Text) (place : Nat) :
    Decidable (IsCut isSeparator s place) :=
  inferInstanceAs (Decidable (_ ∧ _))

/-- The places at which a text is cut, from left to right. -/
def cutPlaces (isSeparator : Char → Bool) (s : Text) : List Nat :=
  (List.range s.length).filter (IsCut isSeparator s ·)

/-- What a text holds from `start` on in front of the first of some places, between them, and
behind the last one. -/
def between (s : Text) : Nat → List Nat → List Part
  | start, [] => [⟨s.drop start, start⟩]
  | start, place :: places => ⟨s.extract start place, start⟩ :: between s (place + 1) places

variable {isSeparator : Char → Bool} {s front rest : Text} {c : Char} {start place : Nat}
  {places : List Nat}

/-! ### Parts between places -/

/-- A part between places begins at the start or behind a place. -/
theorem map_offset_between (s : Text) (start : Nat) (places : List Nat) :
    (between s start places).map offset =
      ((start :: places.map (· + 1)).map Nat.cast : List Int) := by
  induction places generalizing start with
  | nil => rfl
  | cons place places ih =>
    rw [between, List.map_cons, ih]
    rfl

/-- Between places from left to right, every part begins in front of those behind it. -/
theorem pairwise_offset_between (hstart : ∀ place ∈ places, start ≤ place)
    (hplaces : places.Pairwise (· < ·)) :
    (between s start places).Pairwise (·.offset < ·.offset) := by
  rw [← List.pairwise_map (f := offset) (R := (· < ·)), map_offset_between, List.pairwise_map,
    List.pairwise_cons, List.pairwise_map]
  constructor
  · intro next hnext
    obtain ⟨place, hplace, rfl⟩ := List.mem_map.mp hnext
    have hle := hstart place hplace
    omega
  · exact hplaces.imp fun hlt ↦ by omega

/-- A part between places stands in the text at its offset. -/
theorem exists_place_of_mem_between {part : Part} (h : part ∈ between s start places) :
    ∃ place : Nat, part.offset = place ∧ StandsAt s place part.text := by
  induction places generalizing start with
  | nil =>
    obtain rfl := List.mem_singleton.mp h
    exact ⟨start, rfl, List.prefix_refl _⟩
  | cons stop places ih =>
    rcases List.mem_cons.mp h with rfl | hmem
    · refine ⟨start, rfl, ?_⟩
      rw [StandsAt, List.extract_eq_take_drop]
      exact List.take_prefix ..
    · exact ih hmem

/-- Every character from the start on is at one of the places or belongs to a part between them. -/
theorem mem_or_exists_covers_between (hstart : start ≤ place) (hplace : place < s.length)
    (places : List Nat) :
    place ∈ places ∨ ∃ part ∈ between s start places, part.Covers place 1 := by
  induction places generalizing start with
  | nil =>
    refine .inr ⟨_, List.mem_singleton_self _, ?_⟩
    constructor <;> simp <;> omega
  | cons stop places ih =>
    rcases Nat.lt_trichotomy place stop with hlt | rfl | hgt
    · refine .inr ⟨_, List.mem_cons_self .., ?_⟩
      constructor <;> simp [List.extract_eq_take_drop] <;> omega
    · exact .inl (List.mem_cons_self ..)
    · rcases ih hgt with hmem | ⟨part, hpart, hcovers⟩
      · exact .inl (List.mem_cons_of_mem _ hmem)
      · exact .inr ⟨part, List.mem_cons_of_mem _ hpart, hcovers⟩

/-- A part that stands in a text and covers a character of it holds this character. -/
theorem mem_text_of_covers {part : Part} (hoffset : part.offset = start)
    (hstands : StandsAt s start part.text) (hcovers : part.Covers place 1)
    (hplace : s[place]? = some c) : c ∈ part.text := by
  obtain ⟨hfirst, hlast⟩ := hcovers
  have hle : start ≤ place := by omega
  have hlt : place - start < part.text.length := by omega
  have hwhole := hstands.getElem? (List.getElem?_eq_getElem hlt)
  rw [Nat.add_sub_cancel' hle, hplace] at hwhole
  rw [Option.some.inj hwhole]
  exact List.getElem_mem hlt

/-! ### Parts between cuts -/

/-- A text is cut at the character behind `front` if that character cuts it behind the brackets
that are open there. -/
theorem isCut_append_cons (hopen : isSeparator openBracket = false) :
    IsCut isSeparator (front ++ c :: rest) front.length ↔
      cuts isSeparator (depthBehind 0 front) c = true := by
  have hne : isSeparator c = true → c ≠ openBracket := by
    rintro hsep rfl
    rw [hopen] at hsep
    exact absurd hsep Bool.false_ne_true
  rw [IsCut, getElem?_length_append, List.take_left, cuts_eq_true_iff]
  constructor
  · rintro ⟨hsep, hdepth⟩
    exact ⟨hdepth, hne hsep, hsep⟩
  · rintro ⟨hdepth, -, hsep⟩
    exact ⟨hsep, hdepth⟩

-- Once `front` is read and the part begun at `start` is still open, the rest of that part and the
-- parts behind it are those between the cuts that follow.
private theorem between_filter_isCut (hopen : isSeparator openBracket = false) (front rest : Text)
    (hstart : start ≤ front.length) :
    between (front ++ rest) start
        ((List.range' front.length rest.length).filter (IsCut isSeparator (front ++ rest) ·)) =
      ⟨front.drop start ++ (split isSeparator (depthBehind 0 front) front.length rest).1, start⟩ ::
        (split isSeparator (depthBehind 0 front) front.length rest).2 := by
  induction rest generalizing front start with
  | nil => simp [between, split]
  | cons c rest ih =>
    have hfront : front ++ c :: rest = front ++ [c] ++ rest := by simp
    have hlength : (front ++ [c]).length = front.length + 1 := by simp
    have hdepth : depthBehind 0 (front ++ [c]) = depthAfter (depthBehind 0 front) c := by
      simp [depthBehind]
    have hoffset : ((front.length + 1 : Nat) : Int) = front.length + 1 := by omega
    rw [List.length_cons, List.range'_succ, List.filter_cons, split]
    cases hcuts : cuts isSeparator (depthBehind 0 front) c with
    | true =>
      -- The open part ends in front of the separator, and the next one is begun behind it.
      obtain ⟨hzero, hc, -⟩ := cuts_eq_true_iff.mp hcuts
      have hcut : IsCut isSeparator (front ++ c :: rest) front.length :=
        (isCut_append_cons hopen).mpr hcuts
      have hpart : (front ++ c :: rest).extract start front.length = front.drop start := by
        rw [List.extract_eq_take_drop, List.drop_append_of_le_length hstart, ← List.length_drop,
          List.take_left]
      have hothers := ih (front ++ [c]) (Nat.le_refl _)
      rw [hdepth, hzero, depthAfter_zero hc, hlength, ← hfront, hoffset] at hothers
      rw [if_pos (decide_eq_true hcut), between, hothers, hpart]
      simp
    | false =>
      have hothers := ih (front ++ [c]) (Nat.le_trans hstart (by omega))
      have hnot : ¬IsCut isSeparator (front ++ c :: rest) front.length := by
        rw [isCut_append_cons hopen, hcuts]
        exact Bool.false_ne_true
      rw [hdepth, hlength, ← hfront, hoffset, List.drop_append_of_le_length hstart] at hothers
      simp [hnot, hothers]

/-- The parts of a text are those between the places at which it is cut. -/
theorem all_eq_between (hopen : isSeparator openBracket = false) (s : Text) :
    all isSeparator 0 s = between s 0 (cutPlaces isSeparator s) := by
  have hparts := between_filter_isCut hopen [] s (Nat.le_refl 0)
  rw [cutPlaces, List.range_eq_range']
  exact hparts.symm

end Part

namespace Path

/-- Cutting a path into groups and each group into segments finds the parts between the separators
outside brackets, blank ones left out. Every part stands in the path at its offset, it begins in
front of those behind it, and a character that belongs to no part is blank or one of these
separators. -/
theorem flatten_parts_eq_between (path : Text) :
    (parts path).flatten =
        (Part.between path 0 (Part.cutPlaces isSeparator path)).filter
          (fun part ↦ !isBlankText part.text) ∧
      (∀ part ∈ (parts path).flatten, ∃ place : Nat, part.offset = place ∧
        path.extract place (place + part.text.length) = part.text) ∧
      (parts path).flatten.Pairwise (·.offset < ·.offset) ∧
      ∀ place c, path[place]? = some c →
        (∃ part ∈ (parts path).flatten, part.Covers place 1) ∨ isBlank c = true ∨
          Part.IsCut isSeparator path place := by
  have hparts : (parts path).flatten =
      (Part.between path 0 (Part.cutPlaces isSeparator path)).filter
        fun part ↦ !isBlankText part.text := by
    rw [flatten_parts, pieces, Part.cut, Part.all_eq_between (by decide)]
  refine ⟨hparts, fun part hpart ↦ ?_, ?_, fun place c hplace ↦ ?_⟩
  · rw [hparts] at hpart
    obtain ⟨place, hoffset, hstands⟩ :=
      Part.exists_place_of_mem_between (List.mem_filter.mp hpart).1
    refine ⟨place, hoffset, ?_⟩
    rw [List.extract_eq_take_drop, Nat.add_sub_cancel_left]
    exact (List.prefix_iff_eq_take.mp hstands).symm
  · rw [hparts]
    exact (Part.pairwise_offset_between (fun place _ ↦ Nat.zero_le place)
      (List.pairwise_lt_range.filter _)).filter _
  · have hlt := (List.getElem?_eq_some_iff.mp hplace).1
    rcases Part.mem_or_exists_covers_between (Nat.zero_le place) hlt
      (Part.cutPlaces isSeparator path) with hcut | ⟨part, hpart, hcovers⟩
    · exact .inr (.inr (of_decide_eq_true (List.mem_filter.mp hcut).2))
    · cases hblank : isBlankText part.text with
      | false =>
        refine .inl ⟨part, ?_, hcovers⟩
        rw [hparts]
        exact List.mem_filter.mpr ⟨hpart, by rw [hblank]; rfl⟩
      | true =>
        obtain ⟨start, hoffset, hstands⟩ := Part.exists_place_of_mem_between hpart
        have hmem := Part.mem_text_of_covers hoffset hstands hcovers hplace
        exact .inr (.inl (List.all_eq_true.mp hblank c hmem))

/-- A path with nested, stray and unclosed brackets is cut outside of them only. The plus sign
behind the blank part belongs to no part and is not blank, so the path is cut there. -/
theorem flatten_parts_eq_between_unbalanced :
    Part.cutPlaces isSeparator "a[/]]/ +b[[+]/]c+]/[x/+".toList = [5, 7, 16, 18] ∧
      (parts "a[/]]/ +b[[+]/]c+]/[x/+".toList).flatten =
        [⟨"a[/]]".toList, 0⟩, ⟨"b[[+]/]c".toList, 8⟩, ⟨"]".toList, 17⟩, ⟨"[x/+".toList, 19⟩] ∧
      "a[/]]/ +b[[+]/]c+]/[x/+".toList.extract 8 16 = "b[[+]/]c".toList ∧
      "a[/]]/ +b[[+]/]c+]/[x/+".toList[7]? = some '+' ∧
      Part.IsCut isSeparator "a[/]]/ +b[[+]/]c+]/[x/+".toList 7 := by
  obtain ⟨hbetween, hstands, -, hrest⟩ :=
    flatten_parts_eq_between "a[/]]/ +b[[+]/]c+]/[x/+".toList
  have hparts : (parts "a[/]]/ +b[[+]/]c+]/[x/+".toList).flatten =
      [⟨"a[/]]".toList, 0⟩, ⟨"b[[+]/]c".toList, 8⟩, ⟨"]".toList, 17⟩, ⟨"[x/+".toList, 19⟩] :=
    hbetween.trans (by decide +kernel)
  rw [hparts] at hstands hrest
  have hcovers : ¬∃ part ∈ [(⟨"a[/]]".toList, 0⟩ : Part), ⟨"b[[+]/]c".toList, 8⟩,
      ⟨"]".toList, 17⟩, ⟨"[x/+".toList, 19⟩], part.Covers 7 1 := by
    simp [Part.Covers]
  have hcut := ((hrest 7 '+' (by decide)).resolve_left hcovers).resolve_left (by decide)
  obtain ⟨place, hplace, htext⟩ := hstands ⟨"b[[+]/]c".toList, 8⟩ (by decide)
  obtain rfl : 8 = place := Int.ofNat.inj hplace
  exact ⟨by decide +kernel, hparts, htext, by decide, hcut⟩

end Path
end Shorthand
