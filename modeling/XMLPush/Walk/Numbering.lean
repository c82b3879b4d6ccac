import XMLPush.Walk.Traversal

/-!
# Which element stands in which

A record carries its element's ordinal and those of the elements around it, so "`d` stands
in `e`" is `e.ordinal ∈ d.ancestors`. This file proves the numbering means that over every
walk: ordinals are distinct, an element's ancestors started before it, and the two marks
the walk keeps instead of looking ancestors up are the ones the numbering gives —
`innerData` says that a data element stands in this one, and an element that stands in an
ignored one was never offered.

The step lemmas are one for each event; a walk's end only moves a record from one list to
the other, so it is a permutation of `elements` and nothing more.
-/

set_option autoImplicit false

namespace XMLPush

open Nesting

variable {W P : Type}

/-- `d` stands in `e`, at any depth. -/
def Element.StandsIn (d e : Element P) : Prop := e.ordinal ∈ d.ancestors

instance (d e : Element P) : Decidable (d.StandsIn e) :=
  inferInstanceAs (Decidable (_ ∈ _))

theorem Element.standsIn_congr {d d' e e' : Element P} (hancestors : d.ancestors = d'.ancestors)
    (hordinal : e.ordinal = e'.ordinal) : d.StandsIn e ↔ d'.StandsIn e' := by
  rw [StandsIn, StandsIn, hancestors, hordinal]

/-- The numbering of the elements of a document is in order. -/
structure Numbered (elements : List (Element P)) : Prop where
  nodup : (elements.map (·.ordinal)).Nodup
  bounded : ∀ e ∈ elements, e.ordinal < elements.length
  earlier : ∀ d ∈ elements, ∀ o ∈ d.ancestors, o < d.ordinal
  /-- The mark `innerData` is what it says. -/
  marked : ∀ e ∈ elements, e.innerData = true ↔ ∃ d ∈ elements, d.isData = true ∧ d.StandsIn e
  /-- Nothing in an ignored element is offered. -/
  hushed : ∀ e ∈ elements, ∀ d ∈ elements, e.isIgnored = true → d.StandsIn e → d.offer = none

theorem Numbered.perm {xs ys : List (Element P)} (hp : xs.Perm ys) (h : Numbered xs) :
    Numbered ys where
  nodup := (hp.map _).nodup_iff.mp h.nodup
  bounded e he := hp.length_eq ▸ h.bounded e (hp.mem_iff.mpr he)
  earlier d hd := h.earlier d (hp.mem_iff.mpr hd)
  marked e he := by
    simp only [h.marked e (hp.mem_iff.mpr he), hp.mem_iff]
  hushed e he d hd := h.hushed e (hp.mem_iff.mpr he) d (hp.mem_iff.mpr hd)

/-- Elements with the same ordinal are the same. -/
theorem Numbered.eq_of_ordinal {elements : List (Element P)} (h : Numbered elements)
    {d e : Element P} (hd : d ∈ elements) (he : e ∈ elements) (heq : d.ordinal = e.ordinal) :
    d = e :=
  List.inj_on_of_nodup_map h.nodup hd he heq

/-- What the numbering looks at: everything but the names, the attributes and the text. -/
def Element.face (e : Element P) : Nat × List Nat × Option (P × SAXStartElement P) × Bool :=
  (e.ordinal, e.ancestors, e.offer, e.innerData)

/-- Lists with the same faces are numbered alike. -/
theorem Numbered.congr {xs ys : List (Element P)}
    (hface : ys.map Element.face = xs.map Element.face) (h : Numbered xs) : Numbered ys := by
  have hlength : ys.length = xs.length := by
    simpa using congrArg List.length hface
  have himage : ∀ d ∈ ys, ∃ c ∈ xs, c.face = d.face := by
    intro d hd
    have hmem : d.face ∈ xs.map Element.face := hface ▸ List.mem_map_of_mem hd
    exact List.mem_map.mp hmem
  have hback : ∀ c ∈ xs, ∃ d ∈ ys, d.face = c.face := by
    intro c hc
    have hmem : c.face ∈ ys.map Element.face := hface ▸ List.mem_map_of_mem hc
    exact List.mem_map.mp hmem
  have hface_iff : ∀ {c d : Element P}, c.face = d.face ↔ c.ordinal = d.ordinal ∧
      c.ancestors = d.ancestors ∧ c.offer = d.offer ∧ c.innerData = d.innerData := by
    simp [Element.face]
  refine ⟨?_, ?_, ?_, ?_, ?_⟩
  · have hordinals : ys.map (·.ordinal) = xs.map (·.ordinal) := by
      have := congrArg (List.map Prod.fst) hface
      simpa [List.map_map, Function.comp_def, Element.face] using this
    rw [hordinals]
    exact h.nodup
  · intro d hd
    obtain ⟨c, hc, heq⟩ := himage d hd
    rw [hlength, ← (hface_iff.mp heq).1]
    exact h.bounded c hc
  · intro d hd o ho
    obtain ⟨c, hc, heq⟩ := himage d hd
    obtain ⟨hord, hanc, -, -⟩ := hface_iff.mp heq
    rw [← hord]
    exact h.earlier c hc o (hanc ▸ ho)
  · intro e he
    obtain ⟨c, hc, heq⟩ := himage e he
    obtain ⟨hord, -, -, hinner⟩ := hface_iff.mp heq
    rw [← hinner, h.marked c hc]
    constructor
    · intro hex
      obtain ⟨d, hd, hdata, hin⟩ := hex
      obtain ⟨d', hd', heq'⟩ := hback d hd
      obtain ⟨-, hanc', hoffer', -⟩ := hface_iff.mp heq'
      exact ⟨d', hd', (Element.isData_congr hoffer').trans hdata,
        (Element.standsIn_congr hanc' hord.symm).mpr hin⟩
    · intro hex
      obtain ⟨d, hd, hdata, hin⟩ := hex
      obtain ⟨d', hd', heq'⟩ := himage d hd
      obtain ⟨-, hanc', hoffer', -⟩ := hface_iff.mp heq'
      exact ⟨d', hd', (Element.isData_congr hoffer').trans hdata,
        (Element.standsIn_congr hanc' hord).mpr hin⟩
  · intro e he d hd hignored hin
    obtain ⟨c, hc, heq⟩ := himage e he
    obtain ⟨d', hd', heq'⟩ := himage d hd
    obtain ⟨hord, -, hoffer, -⟩ := hface_iff.mp heq
    obtain ⟨-, hanc', hoffer', -⟩ := hface_iff.mp heq'
    rw [← hoffer']
    exact h.hushed c hc d' hd' ((Element.isIgnored_congr hoffer).trans hignored)
      ((Element.standsIn_congr hanc' hord).mpr hin)

/-- An element is open exactly when its ordinal is among those of the open ones. -/
theorem Numbered.mem_opened_iff {opened closed : List (Element P)}
    (h : Numbered (opened ++ closed)) {c : Element P} (hc : c ∈ opened ++ closed) :
    c.ordinal ∈ opened.map (·.ordinal) ↔ c ∈ opened := by
  constructor
  · intro hmem
    obtain ⟨d, hd, heq⟩ := List.mem_map.mp hmem
    rw [← h.eq_of_ordinal (List.mem_append_left _ hd) hc heq]
    exact hd
  · intro hmem
    exact List.mem_map_of_mem hmem

/-- A new element and what it does to the records around it: each old one keeps its place and
    its offer, and is marked if the new one is data and stands in it. -/
theorem mem_around {opened closed : List (Element P)} (h : Numbered (opened ++ closed))
    {e : Element P} (hancestors : e.ancestors = opened.map (·.ordinal)) :
    (∀ x ∈ Walk.around e opened ++ closed, ∃ c ∈ opened ++ closed, x.ordinal = c.ordinal ∧
      x.ancestors = c.ancestors ∧ x.offer = c.offer ∧
        (x.innerData = true ↔ c.innerData = true ∨ e.isData = true ∧ e.StandsIn c)) ∧
    ∀ c ∈ opened ++ closed, ∃ x ∈ Walk.around e opened ++ closed, x.ordinal = c.ordinal ∧
      x.ancestors = c.ancestors ∧ x.offer = c.offer := by
  have hstands : ∀ c ∈ opened ++ closed, e.StandsIn c ↔ c ∈ opened := by
    intro c hc
    unfold Element.StandsIn
    rw [hancestors]
    exact h.mem_opened_iff hc
  have hdisjoint : ∀ c ∈ closed, c ∉ opened := by
    intro c hc ho
    have hnd := h.nodup
    rw [List.map_append] at hnd
    exact List.disjoint_of_nodup_append hnd (List.mem_map_of_mem ho) (List.mem_map_of_mem hc)
  rw [Walk.around_eq_settle]
  constructor
  · intro x hx
    rcases List.mem_append.mp hx with hx | hx
    · obtain ⟨c, hc, rfl⟩ := List.mem_map.mp hx
      have hcE := List.mem_append_left closed hc
      refine ⟨c, hcE, rfl, rfl, rfl, ?_⟩
      simp only [Element.settle, Bool.or_eq_true, (hstands c hcE).mpr hc, and_true]
    · have hxE := List.mem_append_right opened hx
      have hnot : ¬ e.StandsIn x := fun hin => hdisjoint x hx ((hstands x hxE).mp hin)
      exact ⟨x, hxE, rfl, rfl, rfl, by simp [hnot]⟩
  · intro c hc
    rcases List.mem_append.mp hc with hc | hc
    · exact ⟨_, List.mem_append_left _ (List.mem_map_of_mem hc), rfl, rfl, rfl⟩
    · exact ⟨c, List.mem_append_right _ hc, rfl, rfl, rfl⟩

section Newest

variable {opened closed : List (Element P)} (h : Numbered (opened ++ closed)) {e : Element P}
  (hordinal : e.ordinal = (opened ++ closed).length)
  (hancestors : e.ancestors = opened.map (·.ordinal))

include h hancestors

theorem Numbered.marked_around {d : Element P} (hd : d ∈ Walk.around e opened ++ closed) :
    d.innerData = true ↔
      ∃ x ∈ e :: (Walk.around e opened ++ closed), x.isData = true ∧ x.StandsIn d := by
  obtain ⟨himage, hback⟩ := mem_around h hancestors
  obtain ⟨c, hc, hord, -, -, hmark⟩ := himage d hd
  rw [hmark, h.marked c hc]
  constructor
  · intro hor
    rcases hor with ⟨x, hx, hdata, hin⟩ | ⟨hdata, hin⟩
    · obtain ⟨y, hy, -, hanc', hoffer'⟩ := hback x hx
      exact ⟨y, List.mem_cons_of_mem _ hy, (Element.isData_congr hoffer').trans hdata,
        (Element.standsIn_congr hanc' hord).mpr hin⟩
    · exact ⟨e, List.mem_cons_self, hdata, (Element.standsIn_congr rfl hord).mpr hin⟩
  · intro hex
    obtain ⟨x, hx, hdata, hin⟩ := hex
    rcases List.mem_cons.mp hx with rfl | hx
    · exact Or.inr ⟨hdata, (Element.standsIn_congr rfl hord).mp hin⟩
    · obtain ⟨y, hy, -, hanc', hoffer', -⟩ := himage x hx
      exact Or.inl ⟨y, hy, (Element.isData_congr hoffer').symm.trans hdata,
        (Element.standsIn_congr hanc' hord).mp hin⟩

theorem Numbered.hushed_around (hhush : ignoring opened = true → e.offer = none) {d x : Element P}
    (hd : d ∈ Walk.around e opened ++ closed) (hx : x ∈ e :: (Walk.around e opened ++ closed))
    (hignored : d.isIgnored = true) (hin : x.StandsIn d) : x.offer = none := by
  obtain ⟨himage, -⟩ := mem_around h hancestors
  obtain ⟨c, hc, hord, -, hoffer, -⟩ := himage d hd
  have hcignored : c.isIgnored = true := (Element.isIgnored_congr hoffer).symm.trans hignored
  rcases List.mem_cons.mp hx with rfl | hx
  · -- `c` is open and ignored, so the new element was not offered.
    have hmem : c.ordinal ∈ x.ancestors := (Element.standsIn_congr rfl hord).mp hin
    rw [hancestors] at hmem
    have hopen : c ∈ opened := (h.mem_opened_iff hc).mp hmem
    exact hhush (List.any_eq_true.mpr ⟨c, hopen, hcignored⟩)
  · obtain ⟨y, hy, -, hanc', hoffer', -⟩ := himage x hx
    rw [hoffer']
    exact h.hushed c hc y hy hcignored ((Element.standsIn_congr hanc' hord).mp hin)

include hordinal

theorem Numbered.earlier_newest {o : Nat} (ho : o ∈ e.ancestors) : o < e.ordinal := by
  rw [hancestors] at ho
  obtain ⟨d, hd, rfl⟩ := List.mem_map.mp ho
  rw [hordinal]
  exact h.bounded d (List.mem_append_left _ hd)

/-- Nothing that started before the newest element stands in it. -/
theorem Numbered.not_standsIn_newest {d : Element P}
    (hd : d ∈ e :: (Walk.around e opened ++ closed)) : ¬ d.StandsIn e := by
  intro hin
  rcases List.mem_cons.mp hd with rfl | hd
  · exact absurd (h.earlier_newest hordinal hancestors hin) (Nat.lt_irrefl _)
  · obtain ⟨c, hc, -, hanc, -, -⟩ := (mem_around h hancestors).1 d hd
    unfold Element.StandsIn at hin
    rw [hanc] at hin
    have hearlier := h.earlier c hc _ hin
    have hbounded := h.bounded c hc
    omega

/-- One more element, inside the open ones, numbered next. It is offered only if no ignored
    element is open. -/
theorem Numbered.cons (hinner : e.innerData = false)
    (hhush : ignoring opened = true → e.offer = none) :
    Numbered (e :: (Walk.around e opened ++ closed)) := by
  obtain ⟨himage, -⟩ := mem_around h hancestors
  have hlength : (Walk.around e opened ++ closed).length = (opened ++ closed).length := by
    simp [Walk.around_eq_settle]
  have hordinals : (Walk.around e opened ++ closed).map (·.ordinal) =
      (opened ++ closed).map (·.ordinal) := by
    simp [Walk.around_eq_settle, Element.settle, Function.comp_def]
  refine ⟨?_, ?_, ?_, ?_, ?_⟩
  · rw [List.map_cons, List.nodup_cons, hordinals]
    refine ⟨fun hmem => ?_, h.nodup⟩
    obtain ⟨d, hd, heq⟩ := List.mem_map.mp hmem
    have := h.bounded d hd
    omega
  · intro d hd
    rw [List.length_cons, hlength]
    rcases List.mem_cons.mp hd with rfl | hd
    · omega
    · obtain ⟨c, hc, hord, -⟩ := himage d hd
      have := h.bounded c hc
      omega
  · intro d hd o ho
    rcases List.mem_cons.mp hd with rfl | hd
    · exact h.earlier_newest hordinal hancestors ho
    · obtain ⟨c, hc, hord, hanc, -⟩ := himage d hd
      rw [hord]
      exact h.earlier c hc o (hanc ▸ ho)
  · intro d hd
    rcases List.mem_cons.mp hd with rfl | hd
    · rw [hinner]
      simp only [Bool.false_eq_true, false_iff, not_exists, not_and]
      intro x hx _
      exact h.not_standsIn_newest hordinal hancestors hx
    · exact h.marked_around hancestors hd
  · intro d hd x hx hignored hin
    rcases List.mem_cons.mp hd with rfl | hd
    · exact absurd hin (h.not_standsIn_newest hordinal hancestors hx)
    · exact h.hushed_around hancestors hhush hd hx hignored hin

end Newest

/-! ## Over a walk -/

namespace Walk

/-- Each event leaves the elements numbered. -/
theorem numbered_next (D : SAXParsable W P) (event : Event) {a : Walk W P}
    (h : Numbered a.elements) : Numbered (a.next D event).elements := by
  cases event with
  | opening name attributes =>
    refine Numbered.cons h rfl rfl rfl fun hig => ?_
    simp [fresh, offer_of_ignoring D name attributes hig]
  | text bytes =>
    refine Numbered.congr ?_ h
    simp [next, characters, elements, Element.face, Element.receive, Function.comp_def]
  | closing name =>
    cases hopened : a.opened with
    | nil =>
      rw [next, endElement_of_nil D name hopened]
      exact h
    | cons e outer =>
      obtain ⟨hopened', -, hclosed', -⟩ := endElement_of_opened D name hopened
      refine Numbered.perm ?_ h
      rw [elements, elements, next, hopened', hclosed', hopened]
      -- The record moves from the head of the open ones to the end of the closed ones.
      rw [← List.append_assoc]
      exact (List.perm_append_singleton e (outer ++ a.closed)).symm

theorem numbered_follow (D : SAXParsable W P) (events : List Event) {a : Walk W P}
    (h : Numbered a.elements) : Numbered (a.follow D events).elements := by
  induction events generalizing a with
  | nil => exact h
  | cons event events ih => exact ih (numbered_next D event h)

/-- **The elements of every document are numbered in order.** -/
theorem numbered_after (D : SAXParsable W P) (root : P) (world : W) (events : List Event) :
    Numbered (after D root world events).elements :=
  numbered_follow D events ⟨by simp [init, elements], by simp [init, elements],
    by simp [init, elements], by simp [init, elements], by simp [init, elements]⟩

end Walk

end XMLPush
