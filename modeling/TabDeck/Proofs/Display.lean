import TabDeck.Proofs.Moves

/-!
# Where panes are shown

The requests to the host are replayed to find out where each pane is shown. What is known of the
shown panes is said for the tabs that they belong to, and each request changes it for one tab only,
as long as no two tabs have the same pane.
-/

namespace TabDeck

/-- Where a pane is shown after some requests, the latest first. -/
def shownBy (handle : PaneId) : List PaneCall → Option Rect
  | [] => none
  | .mount other rect :: earlier => if other = handle then some rect else shownBy handle earlier
  | .unmount other :: earlier => if other = handle then none else shownBy handle earlier
  | .move other corner :: earlier =>
    if other = handle then (shownBy handle earlier).map fun rect => ⟨corner, rect.size⟩
    else shownBy handle earlier
  | .create _ _ :: earlier | .takeFocus _ _ _ :: earlier => shownBy handle earlier

namespace PaneLink

variable {σ : Type} [PaneHost σ] {link : PaneLink σ} {handle other : PaneId}

omit [PaneHost σ] in
/-- Where a pane is shown. -/
def shown (link : PaneLink σ) (handle : PaneId) : Option Rect := shownBy handle link.calls

@[simp] theorem shown_create (index : Nat) : (link.create index).2.shown handle = link.shown handle :=
  rfl

@[simp] theorem shown_takeFocus (forward : Bool) :
    (link.takeFocus other forward).2.shown handle = link.shown handle :=
  rfl

@[simp] theorem shown_mount_self (rect : Rect) : (link.mount handle rect).shown handle = some rect :=
  if_pos rfl

theorem shown_mount_of_ne (rect : Rect) (apart : other ≠ handle) :
    (link.mount other rect).shown handle = link.shown handle :=
  if_neg apart

@[simp] theorem shown_unmount_self : (link.unmount handle).shown handle = none :=
  if_pos rfl

theorem shown_unmount_of_ne (apart : other ≠ handle) :
    (link.unmount other).shown handle = link.shown handle :=
  if_neg apart

@[simp] theorem shown_move_self (corner : Point) :
    (link.move handle corner).shown handle =
      (link.shown handle).map fun rect => ⟨corner, rect.size⟩ :=
  if_pos rfl

theorem shown_move_of_ne (corner : Point) (apart : other ≠ handle) :
    (link.move other corner).shown handle = link.shown handle :=
  if_neg apart

/-- Mounting a pane leaves all others shown. -/
theorem isSome_shown_mount (rect : Rect) (isShown : (link.shown handle).isSome = true) :
    ((link.mount other rect).shown handle).isSome = true := by
  by_cases same : other = handle
  · subst same
    rw [shown_mount_self]
    rfl
  · rw [shown_mount_of_ne rect same]
    exact isShown

/-- Moving a pane leaves all panes shown. -/
theorem isSome_shown_move (corner : Point) (isShown : (link.shown handle).isSome = true) :
    ((link.move other corner).shown handle).isSome = true := by
  by_cases same : other = handle
  · subst same
    rw [shown_move_self, Option.isSome_map]
    exact isShown
  · rw [shown_move_of_ne corner same]
    exact isShown

end PaneLink

namespace Deck

variable {μ σ : Type}

/-- The pane of a tab, if the tab is there and has one. -/
def paneAt (deck : Deck μ σ) (index : Nat) : Option PaneId := deck.tabs[index]?.bind Tab.pane

/-- No pane belongs to two tabs. -/
def DistinctPanes (deck : Deck μ σ) : Prop :=
  ∀ first second handle, deck.paneAt first = some handle → deck.paneAt second = some handle →
    first = second

/-- Every shown pane of a tab is in the place that the deck has for it. -/
def PanesInPlace (deck : Deck μ σ) : Prop :=
  ∀ index handle rect, deck.paneAt index = some handle → deck.link.shown handle = some rect →
    rect = deck.paneBounds index

/-- The panes of some tabs are shown in proper places, and no others are shown. -/
structure Mounts (deck : Deck μ σ) (proper : Nat → Rect → Prop) (mounted : Nat → Prop) :
    Prop where
  inPlace : ∀ index, mounted index → ∃ handle rect, deck.paneAt index = some handle ∧
    deck.link.shown handle = some rect ∧ proper index rect
  only : ∀ handle, (deck.link.shown handle).isSome = true →
    ∃ index, mounted index ∧ deck.paneAt index = some handle

theorem paneAt_eq (deck : Deck μ σ) (index : Nat) :
    deck.paneAt index = ((deck.tabs.map Tab.pane)[index]?).join := by
  rw [paneAt, List.getElem?_map]
  cases deck.tabs[index]? <;> rfl

theorem lt_length_of_paneAt {deck : Deck μ σ} {index : Nat} {handle : PaneId}
    (given : deck.paneAt index = some handle) : index < deck.tabs.length := by
  rcases Option.bind_eq_some_iff.mp given with ⟨tab, present, -⟩
  exact (List.getElem?_eq_some_iff.mp present).1

/-- Only the tabs that are there have to be compared. -/
theorem distinctPanes_iff (deck : Deck μ σ) :
    deck.DistinctPanes ↔ ∀ first < deck.tabs.length, ∀ second < deck.tabs.length,
      (deck.paneAt first).isSome = true → deck.paneAt second = deck.paneAt first →
        first = second := by
  constructor
  · intro distinct first _ second _ isSome same
    rcases Option.isSome_iff_exists.mp isSome with ⟨handle, given⟩
    exact distinct first second handle given (same.trans given)
  · intro distinct first second handle isFirst isSecond
    apply distinct first (lt_length_of_paneAt isFirst) second (lt_length_of_paneAt isSecond)
    · rw [isFirst]
      rfl
    · rw [isFirst, isSecond]

instance (deck : Deck μ σ) : Decidable deck.DistinctPanes :=
  decidable_of_iff _ deck.distinctPanes_iff.symm

theorem panesInPlace_iff (deck : Deck μ σ) :
    deck.PanesInPlace ↔ ∀ index < deck.tabs.length, ∀ handle ∈ deck.paneAt index,
      ∀ rect ∈ deck.link.shown handle, rect = deck.paneBounds index := by
  constructor
  · intro inPlace index _ handle given rect shown
    exact inPlace index handle rect given shown
  · intro inPlace index handle rect given shown
    exact inPlace index (lt_length_of_paneAt given) handle given rect shown

instance (deck : Deck μ σ) : Decidable deck.PanesInPlace :=
  decidable_of_iff _ deck.panesInPlace_iff.symm

theorem Served.paneAt {before after : Deck μ σ} (served : before.Served after) {index : Nat}
    {handle : PaneId} (given : before.paneAt index = some handle) :
    after.paneAt index = some handle := by
  rcases served with ⟨_, tabs, rfl, filled⟩
  simp only [Deck.paneAt, Option.bind_eq_some_iff] at given ⊢
  rcases given with ⟨tab, present, pane⟩
  rcases TabsFilled.getElem? filled present with ⟨same, presentStill, fills⟩
  exact ⟨same, presentStill, fills.kept handle pane⟩

theorem Served.distinctPanes {before after : Deck μ σ} (served : before.Served after)
    (distinct : after.DistinctPanes) : before.DistinctPanes := by
  intro first second handle isFirst isSecond
  exact distinct first second handle (served.paneAt isFirst) (served.paneAt isSecond)

theorem Served.paneBounds {before after : Deck μ σ} (served : before.Served after) (index : Nat) :
    after.paneBounds index = before.paneBounds index := by
  rcases served with ⟨_, _, rfl, -⟩
  rfl

theorem Restyled.paneAt {before after : Deck μ σ} (restyled : before.Restyled after)
    (index : Nat) : after.paneAt index = before.paneAt index := by
  rcases restyled with ⟨_, _, _, _, _, _, _, _, rfl, panes⟩
  rw [paneAt_eq, paneAt_eq, panes]

theorem Restyled.paneBounds {before after : Deck μ σ} (restyled : before.Restyled after)
    (index : Nat) : after.paneBounds index = before.paneBounds index := by
  rcases restyled with ⟨_, _, _, _, _, _, _, _, rfl, -⟩
  rfl

theorem Restyled.distinctPanes {before after : Deck μ σ} (restyled : before.Restyled after)
    (distinct : after.DistinctPanes) : before.DistinctPanes := by
  intro first second handle isFirst isSecond
  rw [← restyled.paneAt] at isFirst isSecond
  exact distinct first second handle isFirst isSecond

theorem distinctPanes_of_activate [PaneHost σ] {before after : Deck μ σ} {index : Nat}
    {outcome : Outcome} (activated : before.activate index = .ok (outcome, after))
    (distinct : after.DistinctPanes) : before.DistinctPanes := by
  rcases activate_eq_ok activated with ⟨row, gesture, mid, served, rfl, -, -⟩
  exact served.distinctPanes ((restyled_arrange mid).distinctPanes distinct)

theorem Switched.distinctPanes [PaneHost σ] {before after : Deck μ σ}
    (switched : before.Switched after) (distinct : after.DistinctPanes) :
    before.DistinctPanes := by
  rcases switched with rfl | ⟨index, outcome, -, -, activated⟩
  · exact distinct
  · exact distinctPanes_of_activate activated distinct

theorem Move.distinctPanes [PaneHost σ] {before after : Deck μ σ} (move : Move before after)
    (distinct : after.DistinctPanes) : before.DistinctPanes := by
  cases move with
  | restyle restyled => exact restyled.distinctPanes distinct
  | adjust gesture row pressed enabled size offset => exact distinct
  | slide gesture row pressed size moved => exact (served_of_moveAll moved).distinctPanes distinct
  | activate present activated => exact distinctPanes_of_activate activated distinct

namespace Mounts

variable {before after deck : Deck μ σ} {proper : Nat → Rect → Prop} {mounted : Nat → Prop}

theorem congr (mounts : before.Mounts proper mounted)
    (shown : ∀ handle, after.link.shown handle = before.link.shown handle)
    (panes : ∀ index, after.paneAt index = before.paneAt index) :
    after.Mounts proper mounted := by
  refine ⟨?_, ?_⟩
  · intro index isMounted
    rw [panes]
    rcases mounts.inPlace index isMounted with ⟨handle, rect, given, isShown, isProper⟩
    exact ⟨handle, rect, given, (shown handle).trans isShown, isProper⟩
  · intro handle isShown
    rw [shown] at isShown
    rcases mounts.only handle isShown with ⟨index, isMounted, given⟩
    exact ⟨index, isMounted, (panes index).trans given⟩

/-- What is proper may be said differently. -/
theorem mono (mounts : deck.Mounts proper mounted) {otherwise : Nat → Rect → Prop}
    (weaker : ∀ index rect, mounted index → proper index rect → otherwise index rect) :
    deck.Mounts otherwise mounted := by
  refine ⟨?_, mounts.only⟩
  intro index isMounted
  rcases mounts.inPlace index isMounted with ⟨handle, rect, given, isShown, isProper⟩
  exact ⟨handle, rect, given, isShown, weaker index rect isMounted isProper⟩

/-- The mounted tabs may be described differently. -/
theorem of_iff (mounts : deck.Mounts proper mounted) {same : Nat → Prop}
    (iff : ∀ index, same index ↔ mounted index) : deck.Mounts proper same := by
  refine ⟨fun index isMounted => mounts.inPlace index ((iff index).mp isMounted), ?_⟩
  intro handle isShown
  rcases mounts.only handle isShown with ⟨index, isMounted, given⟩
  exact ⟨index, (iff index).mpr isMounted, given⟩

/-- A tab whose pane is not mounted can have another one. -/
theorem setPane {index : Nat} (mounts : deck.Mounts proper mounted) (tab : Tab)
    (apart : ¬ mounted index) :
    { deck with tabs := deck.tabs.set index tab }.Mounts proper mounted := by
  have panes : ∀ other, mounted other →
      { deck with tabs := deck.tabs.set index tab }.paneAt other = deck.paneAt other := by
    intro other isMounted
    have differ : index ≠ other := by
      rintro rfl
      exact apart isMounted
    simp only [paneAt, List.getElem?_set_ne differ]
  refine ⟨?_, ?_⟩
  · intro other isMounted
    rw [panes other isMounted]
    exact mounts.inPlace other isMounted
  · intro handle isShown
    rcases mounts.only handle isShown with ⟨other, isMounted, given⟩
    exact ⟨other, isMounted, (panes other isMounted).trans given⟩

section Requests

variable [PaneHost σ] {index : Nat}

/-- Finding a pane creates at most one, and shows none. -/
theorem shown_of_paneOf {handle : PaneId} (done : deck.paneOf index = .ok (handle, after))
    (other : PaneId) : after.link.shown other = deck.link.shown other := by
  rcases paneOf_eq_ok done with ⟨tab, -, ⟨-, rfl⟩ | ⟨-, -, rfl⟩⟩
  · rfl
  · exact PaneLink.shown_create index

theorem paneAt_of_paneOf {handle : PaneId} (done : deck.paneOf index = .ok (handle, after)) :
    after.paneAt index = some handle := by
  rcases (served_of_paneOf done).2 with ⟨tab, present, given⟩
  simp only [paneAt, present, Option.bind_some, given]

/-- Finding the pane of a tab changes nothing about what is shown. -/
theorem paneOf (mounts : deck.Mounts proper mounted) {handle : PaneId}
    (done : deck.paneOf index = .ok (handle, after)) : after.Mounts proper mounted := by
  have served := (served_of_paneOf done).1
  refine ⟨?_, ?_⟩
  · intro other isMounted
    rcases mounts.inPlace other isMounted with ⟨pane, rect, given, isShown, isProper⟩
    exact ⟨pane, rect, served.paneAt given, (shown_of_paneOf done pane).trans isShown, isProper⟩
  · intro pane isShown
    rw [shown_of_paneOf done] at isShown
    rcases mounts.only pane isShown with ⟨other, isMounted, given⟩
    exact ⟨other, isMounted, served.paneAt given⟩

/-- Mounting a pane puts it in its place, and leaves the others alone. -/
theorem mountPane {placed : Nat → Prop}
    (mounts : deck.Mounts (fun other rect => placed other → rect = deck.paneBounds other) mounted)
    (distinct : after.DistinctPanes) (done : deck.mountPane index = .ok after) :
    after.Mounts
      (fun other rect => other = index ∨ placed other → rect = after.paneBounds other)
      (fun other => other = index ∨ mounted other) := by
  rcases mountPane_eq_ok done with ⟨handle, mid, found, rfl⟩
  have known := mounts.paneOf found
  have served := (served_of_paneOf found).1
  have given : mid.paneAt index = some handle := paneAt_of_paneOf found
  refine ⟨?_, ?_⟩
  · intro other isMounted
    by_cases same : other = index
    · subst same
      exact ⟨handle, _, given, PaneLink.shown_mount_self _, fun _ => rfl⟩
    · rcases known.inPlace other (isMounted.resolve_left same) with
        ⟨pane, rect, givenOther, isShown, isProper⟩
      have apart : handle ≠ pane := by
        rintro rfl
        exact same (distinct other index handle givenOther given)
      refine ⟨pane, rect, givenOther, (PaneLink.shown_mount_of_ne _ apart).trans isShown, ?_⟩
      intro isPlaced
      exact (isProper (isPlaced.resolve_left same)).trans (served.paneBounds other).symm
  · intro pane isShown
    by_cases same : handle = pane
    · subst same
      exact ⟨index, Or.inl rfl, given⟩
    · have wasShown : (mid.link.shown pane).isSome = true := by
        rw [← PaneLink.shown_mount_of_ne _ same]
        exact isShown
      rcases known.only pane wasShown with ⟨other, isMounted, givenOther⟩
      exact ⟨other, Or.inr isMounted, givenOther⟩

/-- Unmounting the pane of a tab leaves the others alone. -/
theorem unmountPane (mounts : deck.Mounts proper mounted) (distinct : deck.DistinctPanes)
    (done : deck.unmountPane index = .ok after) :
    after.Mounts proper (fun other => mounted other ∧ other ≠ index) := by
  rcases unmountPane_eq_ok done with ⟨tab, present, ⟨missing, rfl⟩ | ⟨handle, given, rfl⟩⟩
  · refine ⟨fun other isMounted => mounts.inPlace other isMounted.1, ?_⟩
    intro pane isShown
    rcases mounts.only pane isShown with ⟨other, isMounted, given⟩
    refine ⟨other, ⟨isMounted, ?_⟩, given⟩
    rintro rfl
    simp only [paneAt, present, Option.bind_some, missing] at given
    cases given
  · have givenHere : deck.paneAt index = some handle := by
      simp only [paneAt, present, Option.bind_some, given]
    refine ⟨?_, ?_⟩
    · rintro other ⟨isMounted, apart⟩
      rcases mounts.inPlace other isMounted with ⟨pane, rect, givenOther, isShown, isProper⟩
      have differ : handle ≠ pane := by
        rintro rfl
        exact apart (distinct other index handle givenOther givenHere)
      exact ⟨pane, rect, givenOther, (PaneLink.shown_unmount_of_ne differ).trans isShown, isProper⟩
    · intro pane isShown
      have differ : handle ≠ pane := by
        rintro rfl
        have hidden : (deck.link.unmount handle).shown handle = none := PaneLink.shown_unmount_self
        simp only [hidden] at isShown
        cases isShown
      have wasShown : (deck.link.shown pane).isSome = true := by
        rw [← PaneLink.shown_unmount_of_ne differ]
        exact isShown
      rcases mounts.only pane wasShown with ⟨other, isMounted, givenOther⟩
      refine ⟨other, ⟨isMounted, ?_⟩, givenOther⟩
      rintro rfl
      rw [givenHere] at givenOther
      cases givenOther
      exact differ rfl

/-- What a pane that is partly in place has: the size of the area, and the corner once it is
moved. -/
def Partly (exact : Prop) (moved : Nat → Prop) (deck : Deck μ σ) (index : Nat) (rect : Rect) :
    Prop :=
  exact → rect.size = deck.paneRect.size ∧ (moved index → rect = deck.paneBounds index)

omit [PaneHost σ] in
theorem paneBounds_size (deck : Deck μ σ) (index : Nat) :
    (deck.paneBounds index).size = deck.paneRect.size := by
  simp only [paneBounds]
  split <;> rfl

omit [PaneHost σ] in
theorem partly_of_served {exact : Prop} {moved : Nat → Prop} (served : before.Served after)
    (index : Nat) (rect : Rect) :
    Partly exact moved after index rect ↔ Partly exact moved before index rect := by
  rcases served with ⟨_, _, rfl, -⟩
  exact Iff.rfl

/-- Moving a pane to its place leaves the others alone. -/
theorem movePane {exact : Prop} {moved : Nat → Prop}
    (mounts : deck.Mounts (Partly exact moved deck) mounted) (here : mounted index)
    (distinct : after.DistinctPanes) (done : deck.movePane index = .ok after) :
    after.Mounts (Partly exact (fun other => other = index ∨ moved other) after) mounted := by
  rcases movePane_eq_ok done with ⟨handle, mid, found, rfl⟩
  have served := (served_of_paneOf found).1
  have known : mid.Mounts (Partly exact moved mid) mounted := by
    apply (mounts.paneOf found).mono
    intro other rect _ isProper
    exact (partly_of_served served other rect).mpr isProper
  have given : mid.paneAt index = some handle := paneAt_of_paneOf found
  refine ⟨?_, ?_⟩
  · intro other isMounted
    rcases known.inPlace other isMounted with ⟨pane, rect, givenOther, isShown, isProper⟩
    by_cases same : other = index
    · subst same
      rw [given] at givenOther
      cases givenOther
      refine ⟨handle, ⟨(mid.paneBounds other).origin, rect.size⟩, given, ?_, ?_⟩
      · show (mid.link.move handle (mid.paneBounds other).origin).shown handle = _
        rw [PaneLink.shown_move_self, isShown]
        rfl
      · intro isExact
        have size := (isProper isExact).1
        refine ⟨size, fun _ => ?_⟩
        show Rect.mk (mid.paneBounds other).origin rect.size = mid.paneBounds other
        rw [size, ← paneBounds_size mid other]
    · have apart : handle ≠ pane := by
        rintro rfl
        exact same (distinct other index handle givenOther given)
      refine ⟨pane, rect, givenOther, (PaneLink.shown_move_of_ne _ apart).trans isShown, ?_⟩
      intro isExact
      exact ⟨(isProper isExact).1, fun isMoved => (isProper isExact).2 (isMoved.resolve_left same)⟩
  · intro pane isShown
    have wasShown : (mid.link.shown pane).isSome = true := by
      by_cases same : handle = pane
      · subst same
        have moves : ((mid.link.move handle (mid.paneBounds index).origin).shown handle).isSome =
            true := isShown
        rw [PaneLink.shown_move_self, Option.isSome_map] at moves
        exact moves
      · rw [← PaneLink.shown_move_of_ne _ same]
        exact isShown
    rcases known.only pane wasShown with ⟨other, isMounted, givenOther⟩
    exact ⟨other, isMounted, givenOther⟩

/-! ### Loops over the panes -/

theorem mountEach {placed : Nat → Prop} (items : List Nat)
    (mounts : deck.Mounts (fun other rect => placed other → rect = deck.paneBounds other) mounted)
    (distinct : after.DistinctPanes) (done : items.foldlM Deck.mountPane deck = .ok after) :
    after.Mounts
      (fun other rect => other ∈ items ∨ placed other → rect = after.paneBounds other)
      (fun other => other ∈ items ∨ mounted other) := by
  induction items generalizing deck placed mounted with
  | nil =>
    rw [List.foldlM_nil, pure_eq_ok] at done
    subst done
    apply (mounts.mono _).of_iff
    · simp
    · intro other rect _ isProper isPlaced
      exact isProper (isPlaced.resolve_left List.not_mem_nil)
  | cons index rest ih =>
    rw [List.foldlM_cons, bind_eq_ok] at done
    rcases done with ⟨middle, first, later⟩
    have servedLater : middle.Served after :=
      foldlM_related Served.refl Served.trans served_of_mountPane rest later
    have mountedFirst := mounts.mountPane (servedLater.distinctPanes distinct) first
    apply ((ih mountedFirst later).mono _).of_iff
    · intro other
      rw [List.mem_cons, or_assoc, or_left_comm]
    · intro other rect _ isProper isPlaced
      apply isProper
      rw [List.mem_cons, or_assoc, or_left_comm] at isPlaced
      exact isPlaced

theorem moveEach {exact : Prop} {moved : Nat → Prop} (items : List Nat)
    (mounts : deck.Mounts (Partly exact moved deck) mounted) (here : ∀ index ∈ items, mounted index)
    (distinct : after.DistinctPanes) (done : items.foldlM Deck.movePane deck = .ok after) :
    after.Mounts (Partly exact (fun other => other ∈ items ∨ moved other) after) mounted := by
  induction items generalizing deck moved with
  | nil =>
    rw [List.foldlM_nil, pure_eq_ok] at done
    subst done
    apply mounts.mono
    intro other rect _ isProper isExact
    refine ⟨(isProper isExact).1, fun isMoved => (isProper isExact).2 ?_⟩
    exact isMoved.resolve_left List.not_mem_nil
  | cons index rest ih =>
    rw [List.foldlM_cons, bind_eq_ok] at done
    rcases done with ⟨middle, first, later⟩
    have servedLater : middle.Served after :=
      foldlM_related Served.refl Served.trans served_of_movePane rest later
    have movedFirst := mounts.movePane (here index List.mem_cons_self)
      (servedLater.distinctPanes distinct) first
    apply (ih movedFirst (fun other member => here other (List.mem_cons_of_mem index member))
      later).mono
    intro other rect _ isProper isExact
    refine ⟨(isProper isExact).1, fun isMoved => (isProper isExact).2 ?_⟩
    rcases isMoved with member | already
    · rcases List.mem_cons.mp member with first | later
      · exact Or.inr (Or.inl first)
      · exact Or.inl later
    · exact Or.inr (Or.inr already)

end Requests

end Mounts

/-! ## Panes that move to their places -/

section Moving

variable [PaneHost σ] {deck : Deck μ σ} {handle : PaneId} {items : List Nat}

/-- The requests so far, and one to move the pane of a tab to its place, if there is a pane. -/
def moveShown (deck : Deck μ σ) (link : PaneLink σ) (index : Nat) : PaneLink σ :=
  match deck.paneAt index with
  | some handle => link.move handle (deck.paneBounds index).origin
  | none => link

/-- Moving panes that are there only makes requests. -/
theorem moveItems_eq (given : ∀ index ∈ items, (deck.paneAt index).isSome = true) :
    items.foldlM movePane deck =
      .ok { deck with link := items.foldl deck.moveShown deck.link } := by
  suffices each : ∀ link, items.foldlM movePane { deck with link } =
      .ok { deck with link := items.foldl deck.moveShown link } from each deck.link
  induction items with
  | nil => exact fun link => rfl
  | cons index rest ih =>
    intro link
    rcases Option.isSome_iff_exists.mp (given index List.mem_cons_self) with ⟨handle, isHere⟩
    rcases Option.bind_eq_some_iff.mp isHere with ⟨tab, present, pane⟩
    have moved : ({ deck with link } : Deck μ σ).movePane index =
        .ok { deck with link := deck.moveShown link index } := by
      rw [moveShown, isHere]
      exact movePane_of_given present pane
    rw [List.foldlM_cons, bind_eq_ok]
    exact ⟨_, moved, ih (fun other member => given other (List.mem_cons_of_mem index member)) _⟩

/-- A hidden pane stays hidden, and a pane that is not asked to move stays where it is. -/
theorem shown_moveShown_of_apart (link : PaneLink σ) {index : Nat}
    (apart : link.shown handle = none ∨ deck.paneAt index ≠ some handle) :
    (deck.moveShown link index).shown handle = link.shown handle := by
  rw [moveShown]
  split
  · next other isOther =>
    by_cases same : other = handle
    · subst same
      rcases apart with hidden | absent
      · rw [PaneLink.shown_move_self, hidden]
        rfl
      · exact absurd isOther absent
    · exact PaneLink.shown_move_of_ne _ same
  · rfl

theorem shown_moveItems_of_apart (link : PaneLink σ)
    (apart : link.shown handle = none ∨ ∀ index ∈ items, deck.paneAt index ≠ some handle) :
    (items.foldl deck.moveShown link).shown handle = link.shown handle := by
  induction items generalizing link with
  | nil => rfl
  | cons index rest ih =>
    have kept : (deck.moveShown link index).shown handle = link.shown handle :=
      shown_moveShown_of_apart link (apart.imp_right fun absent => absent index List.mem_cons_self)
    rw [List.foldl_cons, ih, kept]
    rw [kept]
    exact apart.imp_right fun absent other member => absent other (List.mem_cons_of_mem index member)

/-- A shown pane goes where all tabs that have it say, if there are any among those asked to
move. -/
theorem shown_moveItems {link : PaneLink σ} {rect : Rect} {corner : Point}
    (isShown : link.shown handle = some rect)
    (agree : ∀ index ∈ items, deck.paneAt index = some handle →
      (deck.paneBounds index).origin = corner) :
    ((∀ index ∈ items, deck.paneAt index ≠ some handle) ∧
        (items.foldl deck.moveShown link).shown handle = some rect) ∨
      (items.foldl deck.moveShown link).shown handle = some ⟨corner, rect.size⟩ := by
  induction items generalizing link rect with
  | nil => exact Or.inl ⟨by simp, isShown⟩
  | cons index rest ih =>
    have agreeLater : ∀ other ∈ rest, deck.paneAt other = some handle →
        (deck.paneBounds other).origin = corner :=
      fun other member => agree other (List.mem_cons_of_mem index member)
    rw [List.foldl_cons]
    by_cases here : deck.paneAt index = some handle
    · have moved : (deck.moveShown link index).shown handle = some ⟨corner, rect.size⟩ := by
        rw [moveShown, here]
        simp only [PaneLink.shown_move_self, isShown, Option.map_some,
          agree index List.mem_cons_self here]
      rcases ih moved agreeLater with ⟨-, stays⟩ | goes
      · exact Or.inr stays
      · exact Or.inr goes
    · have kept : (deck.moveShown link index).shown handle = some rect := by
        rw [shown_moveShown_of_apart link (Or.inr here)]
        exact isShown
      rcases ih kept agreeLater with ⟨absent, stays⟩ | goes
      · exact Or.inl ⟨List.forall_mem_cons.mpr ⟨here, absent⟩, stays⟩
      · exact Or.inr goes

/-- All requests of a deck, once it had all panes move. -/
def moveEach (deck : Deck μ σ) : PaneLink σ :=
  (List.range deck.tabs.length).foldl deck.moveShown deck.link

/-- Where all tabs have panes, moving them only makes requests. -/
theorem eq_of_moveAll {after : Deck μ σ} (done : deck.moveAll = .ok after)
    (flicks : deck.settings.flicks = true) (laidOut : deck.laidOut = true)
    (given : ∀ index < deck.tabs.length, (deck.paneAt index).isSome = true) :
    after = { deck with link := deck.moveEach } := by
  rw [moveAll, if_pos (by rw [flicks, laidOut]; rfl)] at done
  rw [moveItems_eq fun index member => given index (List.mem_range.mp member)] at done
  exact (Except.ok.inj done).symm

theorem shown_moveEach_of_apart
    (apart : deck.link.shown handle = none ∨ ∀ index, deck.paneAt index ≠ some handle) :
    deck.moveEach.shown handle = deck.link.shown handle :=
  shown_moveItems_of_apart deck.link (apart.imp_right fun absent index _ => absent index)

/-- A shown pane goes where all tabs that have it say. -/
theorem shown_moveEach {index : Nat} {rect : Rect} {corner : Point}
    (given : deck.paneAt index = some handle) (isShown : deck.link.shown handle = some rect)
    (agree : ∀ other, deck.paneAt other = some handle → (deck.paneBounds other).origin = corner) :
    deck.moveEach.shown handle = some ⟨corner, rect.size⟩ := by
  rcases shown_moveItems isShown fun other _ => agree other with ⟨absent, -⟩ | goes
  · exact absurd given (absent index (List.mem_range.mpr (lt_length_of_paneAt given)))
  · exact goes

end Moving

end Deck

end TabDeck
