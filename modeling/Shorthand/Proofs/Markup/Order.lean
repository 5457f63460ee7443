import Shorthand.Markup.Element
import Shorthand.Proofs.Attributes.Collected

/-!
# The order of attributes

A policy puts items in the order of their ranks and keeps the order of those that share one. The
main statements say that nothing else is in the order: two lists with the same items of every rank
are ordered alike, and so are two attribute maps with the same values whose unranked names stand in
the same order. The ranked items come first, and the others stand behind them as they were.
-/

namespace Shorthand

namespace Policy

private theorem getElem?_rank {policy : Policy} {name : Text}
    (h : policy.rank name < policy.attributeOrder.length) :
    policy.attributeOrder[policy.rank name]? = some name := by
  have hfound := @List.findIdx_getElem _ (· == name) policy.attributeOrder h
  exact (List.getElem?_eq_getElem h).trans (congrArg some (beq_iff_eq.mp hfound))

/-- No other name shares the rank of a ranked name. -/
theorem eq_of_rank_eq {policy : Policy} {name other : Text} (hname : name ∈ policy.attributeOrder)
    (h : policy.rank other = policy.rank name) : other = name := by
  have hlt := (policy.rank_lt_iff name).mpr hname
  have hother := getElem?_rank (h ▸ hlt)
  rw [h, getElem?_rank hlt] at hother
  exact (Option.some.inj hother).symm

/-- All names that are not ranked share the rank behind those that are. -/
theorem rank_of_not_mem {policy : Policy} {name : Text} (h : name ∉ policy.attributeOrder) :
    policy.rank name = policy.attributeOrder.length := by
  have hle : policy.rank name ≤ policy.attributeOrder.length := List.findIdx_le_length
  have hlt := mt (policy.rank_lt_iff name).mp h
  omega

section Items

variable {α : Type} (policy : Policy) (nameOf : α → Text)

/-- Whether items stand in the order of their ranks. -/
def IsOrdered (items : List α) : Prop :=
  items.Pairwise fun a b ↦ policy.rank (nameOf a) ≤ policy.rank (nameOf b)

/-- The items of one rank, in their order. -/
def ofRank (r : Nat) (items : List α) : List α :=
  items.filter fun item ↦ policy.rank (nameOf item) = r

variable {policy nameOf} {items items' : List α}

private theorem isOrdered_insertByRank {item : α} (h : IsOrdered policy nameOf items) :
    IsOrdered policy nameOf (insertByRank policy nameOf item items) := by
  induction items with
  | nil => exact List.pairwise_singleton _ _
  | cons next rest ih =>
    obtain ⟨hnext, hrest⟩ := List.pairwise_cons.mp h
    rw [insertByRank]
    split
    · next hle =>
      refine List.pairwise_cons.mpr ⟨fun other hother ↦ ?_, h⟩
      rcases List.mem_cons.mp hother with rfl | hother
      · exact hle
      · exact Nat.le_trans hle (hnext other hother)
    · next hlt =>
      refine List.pairwise_cons.mpr ⟨fun other hother ↦ ?_, ih hrest⟩
      rcases List.mem_cons.mp ((insertByRank_perm policy nameOf item rest).mem_iff.mp hother)
        with rfl | hother
      · omega
      · exact hnext other hother

/-- Ordering puts items in the order of their ranks. -/
theorem isOrdered_inOrder (policy : Policy) (nameOf : α → Text) (items : List α) :
    IsOrdered policy nameOf (inOrder policy nameOf items) := by
  induction items with
  | nil => exact List.Pairwise.nil
  | cons item rest ih => exact isOrdered_insertByRank ih

private theorem ofRank_insertByRank (r : Nat) (item : α) (items : List α) :
    ofRank policy nameOf r (insertByRank policy nameOf item items) =
      ofRank policy nameOf r (item :: items) := by
  induction items with
  | nil => rfl
  | cons next rest ih =>
    rw [insertByRank]
    split
    · rfl
    · next hlt =>
      -- The item moves behind one of a smaller rank only.
      simp only [ofRank, List.filter_cons, decide_eq_true_eq] at ih ⊢
      rw [ih]
      by_cases hitem : policy.rank (nameOf item) = r
      · have hnext : ¬policy.rank (nameOf next) = r := by omega
        simp [hitem, hnext]
      · simp [hitem]

/-- Ordering keeps the order of the items of each rank. -/
theorem ofRank_inOrder (r : Nat) (items : List α) :
    ofRank policy nameOf r (inOrder policy nameOf items) = ofRank policy nameOf r items := by
  induction items with
  | nil => rfl
  | cons item rest ih =>
    rw [inOrder, ofRank_insertByRank]
    simp only [ofRank, List.filter_cons] at ih ⊢
    rw [ih]

/-- Items in the order of their ranks are known from the items of each rank. -/
theorem IsOrdered.eq (h : IsOrdered policy nameOf items) (h' : IsOrdered policy nameOf items')
    (hrank : ∀ r, ofRank policy nameOf r items = ofRank policy nameOf r items') :
    items = items' := by
  have hmem : ∀ {first second : List α},
      (∀ r, ofRank policy nameOf r first = ofRank policy nameOf r second) →
        ∀ item ∈ first, item ∈ second := by
    intro first second heq item hitem
    have hhere : item ∈ ofRank policy nameOf (policy.rank (nameOf item)) first :=
      List.mem_filter.mpr ⟨hitem, by simp⟩
    rw [heq] at hhere
    exact (List.mem_filter.mp hhere).1
  induction items generalizing items' with
  | nil =>
    cases items' with
    | nil => rfl
    | cons next rest =>
      exact absurd (hmem (fun r ↦ (hrank r).symm) next (List.mem_cons_self ..)) List.not_mem_nil
  | cons item items ih =>
    cases items' with
    | nil => exact absurd (hmem hrank item (List.mem_cons_self ..)) List.not_mem_nil
    | cons next rest =>
      obtain ⟨hitem, hitems⟩ := List.pairwise_cons.mp h
      obtain ⟨hnext, hrest⟩ := List.pairwise_cons.mp h'
      have hle : policy.rank (nameOf next) ≤ policy.rank (nameOf item) := by
        rcases List.mem_cons.mp (hmem hrank item (List.mem_cons_self ..)) with rfl | hmem
        · exact Nat.le_refl _
        · exact hnext item hmem
      have hge : policy.rank (nameOf item) ≤ policy.rank (nameOf next) := by
        rcases List.mem_cons.mp (hmem (fun r ↦ (hrank r).symm) next (List.mem_cons_self ..))
          with rfl | hmem
        · exact Nat.le_refl _
        · exact hitem next hmem
      have hsame : policy.rank (nameOf next) = policy.rank (nameOf item) := by omega
      have hheads := hrank (policy.rank (nameOf item))
      rw [ofRank, ofRank, List.filter_cons_of_pos (by simp),
        List.filter_cons_of_pos (by simpa using hsame)] at hheads
      obtain ⟨rfl, -⟩ := List.cons.inj hheads
      refine congrArg (item :: ·) (ih hitems hrest fun r ↦ ?_)
      have hothers := hrank r
      simp only [ofRank, List.filter_cons] at hothers ⊢
      split at hothers
      · exact (List.cons.inj hothers).2
      · exact hothers

/-- Lists with the same items of every rank are ordered alike. -/
theorem inOrder_congr
    (hrank : ∀ r, ofRank policy nameOf r items = ofRank policy nameOf r items') :
    inOrder policy nameOf items = inOrder policy nameOf items' :=
  (isOrdered_inOrder policy nameOf items).eq (isOrdered_inOrder policy nameOf items') fun r ↦ by
    rw [ofRank_inOrder, ofRank_inOrder, hrank]

/-- It does not matter whether items are dropped before or after the others are ordered. -/
theorem filter_inOrder (p : α → Bool) (items : List α) :
    (inOrder policy nameOf items).filter p = inOrder policy nameOf (items.filter p) := by
  have hfilter : IsOrdered policy nameOf ((inOrder policy nameOf items).filter p) :=
    (isOrdered_inOrder policy nameOf items).sublist List.filter_sublist
  refine hfilter.eq (isOrdered_inOrder policy nameOf _) fun r ↦ ?_
  have hcomm : ∀ l : List α, ofRank policy nameOf r (l.filter p) =
      (ofRank policy nameOf r l).filter p := fun l ↦ by
    rw [ofRank, ofRank, List.filter_filter, List.filter_filter]
    simp only [Bool.and_comm]
  rw [ofRank_inOrder, hcomm, hcomm, ofRank_inOrder]

/-- The items of one rank are all ranked or all unranked. -/
theorem ofRank_filter (r : Nat) (items : List α) :
    ofRank policy nameOf r (items.filter (nameOf · ∈ policy.attributeOrder)) =
        (if r < policy.attributeOrder.length then ofRank policy nameOf r items else []) ∧
      ofRank policy nameOf r (items.filter (nameOf · ∉ policy.attributeOrder)) =
        if r < policy.attributeOrder.length then [] else ofRank policy nameOf r items := by
  have hmem : ∀ item, policy.rank (nameOf item) = r →
      (nameOf item ∈ policy.attributeOrder ↔ r < policy.attributeOrder.length) := by
    rintro item rfl
    exact (policy.rank_lt_iff _).symm
  simp only [ofRank, List.filter_filter]
  constructor
  · split
    · next hr => exact List.filter_congr fun item _ ↦ by simpa using fun h ↦ (hmem item h).mpr hr
    · next hr => simpa using fun item _ h ↦ mt (hmem item h).mp hr
  · split
    · next hr => simpa using fun item _ h ↦ (hmem item h).mpr hr
    · next hr => exact List.filter_congr fun item _ ↦ by simpa using fun h ↦ mt (hmem item h).mp hr

/-- Ordering puts the ranked items in front and leaves the others as they stand. -/
theorem inOrder_eq_append (items : List α) :
    inOrder policy nameOf items =
      inOrder policy nameOf (items.filter (nameOf · ∈ policy.attributeOrder)) ++
        items.filter (nameOf · ∉ policy.attributeOrder) := by
  have hranked : ∀ item ∈ inOrder policy nameOf
      (items.filter (nameOf · ∈ policy.attributeOrder)),
      policy.rank (nameOf item) < policy.attributeOrder.length := by
    intro item hitem
    rw [(inOrder_perm policy nameOf _).mem_iff] at hitem
    exact (policy.rank_lt_iff _).mpr (by simpa using (List.mem_filter.mp hitem).2)
  have hunranked : ∀ item ∈ items.filter (nameOf · ∉ policy.attributeOrder),
      policy.rank (nameOf item) = policy.attributeOrder.length := by
    intro item hitem
    exact rank_of_not_mem (by simpa using (List.mem_filter.mp hitem).2)
  have hordered : IsOrdered policy nameOf (items.filter (nameOf · ∉ policy.attributeOrder)) := by
    apply List.pairwise_iff_forall_sublist.mpr
    intro first second hsublist
    have hfirst := hunranked first (hsublist.subset (by simp))
    have hsecond := hunranked second (hsublist.subset (by simp))
    exact Nat.le_of_eq (hfirst.trans hsecond.symm)
  refine (isOrdered_inOrder policy nameOf items).eq (List.pairwise_append.mpr
    ⟨isOrdered_inOrder policy nameOf _, hordered, ?_⟩) fun r ↦ ?_
  · intro first hfirst second hsecond
    rw [hunranked _ hsecond]
    exact Nat.le_of_lt (hranked _ hfirst)
  · have happend : ∀ l l' : List α, ofRank policy nameOf r (l ++ l') =
        ofRank policy nameOf r l ++ ofRank policy nameOf r l' := fun _ _ ↦ List.filter_append ..
    rw [happend, ofRank_inOrder, ofRank_inOrder, (ofRank_filter r items).1,
      (ofRank_filter r items).2]
    split <;> simp

end Items

/-- Different ranked names stand in the order of their first places. -/
theorem pairwise_inOrder_ranked {policy : Policy} {names : List Text} (hnodup : names.Nodup)
    (hranked : ∀ name ∈ names, name ∈ policy.attributeOrder) :
    (policy.inOrder id names).Pairwise fun first second ↦
      policy.attributeOrder.idxOf first < policy.attributeOrder.idxOf second := by
  have hdifferent : (policy.inOrder id names).Nodup :=
    (inOrder_perm policy id names).nodup_iff.mpr hnodup
  have hordered := isOrdered_inOrder policy id names
  apply List.Pairwise.imp_of_mem _ (hordered.and hdifferent)
  rintro first second hfirst - ⟨hle, hne⟩
  have hfirstRanked := hranked first ((inOrder_perm policy id names).mem_iff.mp hfirst)
  refine Nat.lt_of_le_of_ne hle fun hrank ↦ hne ?_
  exact (eq_of_rank_eq hfirstRanked hrank.symm).symm

end Policy

/-! ### Attribute maps -/

namespace Attributes

variable {α : Type} {a b : Attributes α}

private theorem map_entries (a : Attributes α) :
    a.entries.map (fun entry ↦ (entry.1, some entry.2)) = a.names.map fun n ↦ (n, a.get? n) := by
  rw [names, List.map_map]
  apply List.map_congr_left
  intro entry hentry
  exact congrArg (entry.1, ·) (get?_of_mem hentry).symm

/-- Maps have the same entries as far as they have the same names with the same values. -/
theorem filter_entries_congr (p : Text → Bool)
    (hget : ∀ name, p name = true → a.get? name = b.get? name)
    (hnames : a.names.filter p = b.names.filter p) :
    (a.entries.filter fun entry ↦ p entry.1) = b.entries.filter fun entry ↦ p entry.1 := by
  have hpairs : ∀ c : Attributes α,
      ((c.entries.filter fun entry ↦ p entry.1).map fun entry ↦ (entry.1, some entry.2)) =
        (c.names.filter p).map fun n ↦ (n, c.get? n) := by
    intro c
    have hfilter := congrArg (List.filter fun pair ↦ p pair.1) (map_entries c)
    rw [List.filter_map, List.filter_map] at hfilter
    exact hfilter
  have hinjective : ∀ entry entry' : Text × α,
      (entry.1, some entry.2) = (entry'.1, some entry'.2) → entry = entry' := by
    rintro ⟨n, v⟩ ⟨m, w⟩ h
    simpa using h
  apply (List.map_inj_right hinjective).mp
  rw [hpairs, hpairs, hnames]
  exact List.map_congr_left fun n hn ↦ by rw [hget n (List.mem_filter.mp hn).2]

/-- Maps with the same values are ordered alike if their unranked names stand in the same order. -/
theorem inOrder_entries_congr {policy : Policy} (hget : ∀ name, a.get? name = b.get? name)
    (hunranked : a.names.filter (· ∉ policy.attributeOrder) =
      b.names.filter (· ∉ policy.attributeOrder)) :
    policy.inOrder Prod.fst a.entries = policy.inOrder Prod.fst b.entries := by
  apply Policy.inOrder_congr
  intro r
  apply filter_entries_congr (fun n ↦ policy.rank n = r) fun n _ ↦ hget n
  have hmem : ∀ n, n ∈ a.names ↔ n ∈ b.names := fun n ↦ by
    rw [← get?_isSome_iff, hget, get?_isSome_iff]
  by_cases hr : r < policy.attributeOrder.length
  · -- One name at most has the rank.
    have hperm : (a.names.filter fun n ↦ policy.rank n = r).Perm
        (b.names.filter fun n ↦ policy.rank n = r) :=
      (List.perm_ext_iff_of_nodup (a.nodup.filter _) (b.nodup.filter _)).mpr fun n ↦ by
        rw [List.mem_filter, List.mem_filter]
        exact and_congr_left fun _ ↦ hmem n
    refine @List.Perm.eq_of_pairwise _ (fun _ _ ↦ True) _ _ (fun n m hn hm _ _ ↦ ?_) ?_ ?_ hperm
    · have hrankN : policy.rank n = r := by simpa using (List.mem_filter.mp hn).2
      have hrankM : policy.rank m = r := by simpa using (List.mem_filter.mp hm).2
      have hranked : m ∈ policy.attributeOrder := by
        rw [← policy.rank_lt_iff, hrankM]
        exact hr
      exact Policy.eq_of_rank_eq hranked (hrankN.trans hrankM.symm)
    · exact List.pairwise_of_forall fun _ _ ↦ trivial
    · exact List.pairwise_of_forall fun _ _ ↦ trivial
  · -- Every name of the rank is unranked.
    have hunrankedNames : ∀ names : List Text, (names.filter fun n ↦ policy.rank n = r) =
        (names.filter (· ∉ policy.attributeOrder)).filter fun n ↦ policy.rank n = r :=
      fun names ↦ ((@Policy.ofRank_filter _ policy id r names).2.trans (if_neg hr)).symm
    rw [hunrankedNames, hunranked, ← hunrankedNames]

end Attributes

/-- Maps with the same values are written alike if their unranked names stand in the same order. For
every map the names come in an order of their own: the ranked ones first, each where the policy
first ranks it, and behind them the others as they were set. -/
theorem Policy.attributeText_eq_of_unranked (policy : Policy) :
    (∀ a b : Attributes AttributeValue, (∀ name, a.get? name = b.get? name) →
        a.names.filter (· ∉ policy.attributeOrder) = b.names.filter (· ∉ policy.attributeOrder) →
        policy.attributeText a = policy.attributeText b) ∧
      ∀ a : Attributes AttributeValue, (policy.inOrder id a.names).Perm a.names ∧
        ∃ ranked : List Text,
          policy.inOrder id a.names =
            ranked ++ a.names.filter (· ∉ policy.attributeOrder) ∧
          (∀ name ∈ ranked, name ∈ policy.attributeOrder) ∧
          ranked.Pairwise fun first second ↦
            policy.attributeOrder.idxOf first < policy.attributeOrder.idxOf second := by
  refine ⟨fun a b hget hunranked ↦ ?_, fun a ↦ ⟨inOrder_perm policy id a.names, ?_⟩⟩
  · have hentries := Attributes.inOrder_entries_congr hget hunranked
    rw [attributeText, attributeText, appearances, appearances, hentries]
  · have hranked : ∀ name ∈ a.names.filter (· ∈ policy.attributeOrder),
        name ∈ policy.attributeOrder := fun name hname ↦ by
      simpa using (List.mem_filter.mp hname).2
    refine ⟨policy.inOrder id (a.names.filter (· ∈ policy.attributeOrder)),
      inOrder_eq_append a.names, fun name hname ↦ ?_,
      pairwise_inOrder_ranked (a.nodup.filter _) hranked⟩
    exact hranked name ((inOrder_perm policy id _).mem_iff.mp hname)

/-- A name that a policy ranks twice keeps its first rank. -/
theorem Policy.attributeText_eq_of_unranked_repeated :
    let policy : Policy :=
      { Policy.standard with attributeOrder := ["id", "class", "id"].map String.toList }
    let a : Attributes AttributeValue := (Attributes.ofList [("x".toList, "1".toList),
      (className, "c".toList), ("y".toList, "2".toList), (idName, "i".toList)]).map .ofText
    let b : Attributes AttributeValue := (Attributes.ofList [(idName, "i".toList),
      ("x".toList, "1".toList), ("y".toList, "2".toList), (className, "c".toList)]).map .ofText
    (∀ name, a.get? name = b.get? name) ∧
      a.names.filter (· ∉ policy.attributeOrder) = b.names.filter (· ∉ policy.attributeOrder) ∧
      policy.attributeText a = policy.attributeText b ∧
      policy.attributeText b = " id=\"i\" class=\"c\" x=\"1\" y=\"2\"".toList := by
  intro policy a b
  have hget : ∀ name, a.get? name = b.get? name :=
    (Attributes.sameBindings_iff a b).mp (by decide +kernel)
  have hunranked : a.names.filter (· ∉ policy.attributeOrder) =
      b.names.filter (· ∉ policy.attributeOrder) := by decide +kernel
  exact ⟨hget, hunranked, (attributeText_eq_of_unranked policy).1 a b hget hunranked,
    by decide +kernel⟩

end Shorthand
