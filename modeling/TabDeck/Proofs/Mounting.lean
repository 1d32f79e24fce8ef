import TabDeck.Proofs.Constancy
import TabDeck.Proofs.Display
import TabDeck.Simulator.DemoPanes

/-!
# Which panes are shown, and where

A deck that was placed shows the active pane, or all panes in flick mode, and no others. Each is
where the deck says it is, as long as nothing changes the area of the panes without moving them. New
captions do, when the strip of a placed deck becomes higher or lower by them.
-/

namespace TabDeck

namespace Deck

variable {μ σ : Type}

/-! ## What a deck shows -/

/-- The pane of a tab belongs on the display. -/
def Displays (deck : Deck μ σ) (index : Nat) : Prop :=
  index < deck.tabs.length ∧ deck.showsPane index = true

/-- The panes that belong on the display are there and no others are, each exactly where the deck
has it if that is asked for. -/
def Attached (exact : Prop) (deck : Deck μ σ) : Prop :=
  deck.Mounts (fun index rect => exact → rect = deck.paneBounds index) deck.Displays

/-- The panes are attached with the right size, but the row may have moved since. -/
def Loose (exact : Prop) (deck : Deck μ σ) : Prop :=
  deck.Mounts (fun index rect => exact → rect.size = deck.paneRect.size ∧
    (deck.settings.flicks = false → rect = deck.paneBounds index)) deck.Displays

theorem Attached.inPlace {deck : Deck μ σ} (attached : deck.Attached True)
    (distinct : deck.DistinctPanes) : deck.PanesInPlace := by
  intro index handle rect given isShown
  have present : (deck.link.shown handle).isSome = true := by
    rw [isShown]
    rfl
  rcases attached.only handle present with ⟨other, displayed, givenOther⟩
  have same := distinct index other handle given givenOther
  subst same
  rcases Mounts.inPlace attached index displayed with ⟨pane, place, givenHere, isShownHere, isProper⟩
  rw [given] at givenHere
  cases givenHere
  rw [isShown] at isShownHere
  cases isShownHere
  exact isProper trivial

/-- Where panes are shown depends on these parts of a deck and on its row. -/
structure Alike (before after : Deck μ σ) : Prop where
  link : after.link = before.link
  tabs : after.tabs = before.tabs
  settings : after.settings = before.settings
  area : after.paneRect = before.paneRect
  displays : ∀ index, after.Displays index ↔ before.Displays index

namespace Attached

variable {exact : Prop} {before after deck : Deck μ σ}

theorem congr (attached : before.Attached exact)
    (shown : ∀ handle, after.link.shown handle = before.link.shown handle)
    (panes : ∀ index, after.paneAt index = before.paneAt index)
    (displays : ∀ index, after.Displays index ↔ before.Displays index)
    (bounds : exact → ∀ index, after.paneBounds index = before.paneBounds index) :
    after.Attached exact := by
  apply ((Mounts.congr attached shown panes).mono _).of_iff displays
  intro index rect _ isProper isExact
  rw [bounds isExact]
  exact isProper isExact

theorem restyled (attached : before.Attached exact) (restyled : before.Restyled after) :
    after.Attached exact := by
  have length := restyled.length_tabs
  apply attached.congr _ restyled.paneAt _ (fun _ => restyled.paneBounds)
  · rcases restyled with ⟨_, _, _, _, _, _, _, _, rfl, -⟩
    exact fun _ => rfl
  · intro index
    rw [Displays, Displays, length]
    rcases restyled with ⟨_, _, _, _, _, _, _, _, rfl, -⟩
    exact Iff.rfl

/-- Attached panes have the right size, wherever the row and the gesture go. -/
theorem loose (attached : before.Attached exact) (alike : before.Alike after) :
    after.Loose exact := by
  apply ((Mounts.congr attached _ _).mono _).of_iff alike.displays
  · intro handle
    rw [alike.link]
  · intro index
    rw [paneAt, paneAt, alike.tabs]
  · intro index rect _ isProper isExact
    rw [isProper isExact, Mounts.paneBounds_size, alike.area]
    refine ⟨rfl, fun paged => ?_⟩
    have pagedBefore : before.settings.flicks = false := by
      rw [← alike.settings]
      exact paged
    simp only [paneBounds, paged, pagedBefore, Bool.false_eq_true, if_false, alike.area]

/-- Attached panes stay in place where the row stays. -/
theorem unmoved (attached : before.Attached exact) (alike : before.Alike after)
    (offset : after.row.offset = before.row.offset)
    (stride : after.row.stride = before.row.stride) : after.Attached exact := by
  apply attached.congr _ _ alike.displays
  · intro _ index
    simp only [paneBounds, PaneRow.paneLeft, alike.settings, alike.area, offset, stride]
  · intro handle
    rw [alike.link]
  · intro index
    rw [paneAt, paneAt, alike.tabs]

end Attached

/-- Moving all panes tightens them. -/
theorem Loose.moveAll [PaneHost σ] {exact : Prop} {deck after : Deck μ σ} (loose : deck.Loose exact)
    (distinct : after.DistinctPanes) (done : deck.moveAll = .ok after) : after.Attached exact := by
  rcases moveAll_eq_ok done with ⟨flicks, laidOut, moved⟩ | ⟨apart, rfl⟩
  · have served : deck.Served after :=
      foldlM_related Served.refl Served.trans served_of_movePane _ moved
    have displays : ∀ index, deck.Displays index ↔ index ∈ List.range deck.tabs.length := by
      intro index
      simp [Displays, showsPane, flicks, laidOut]
    have partly : deck.Mounts (Mounts.Partly exact (fun _ => False) deck) deck.Displays := by
      apply Mounts.mono loose
      intro index rect _ isProper isExact
      exact ⟨(isProper isExact).1, False.elim⟩
    have each := partly.moveEach (List.range deck.tabs.length)
      (fun index member => (displays index).mpr member) distinct moved
    apply (each.mono _).of_iff
    · intro index
      rw [Displays, Displays, served.length_tabs]
      rcases served with ⟨_, _, rfl, -⟩
      exact Iff.rfl
    · intro index rect displayed isProper isExact
      exact (isProper isExact).2 (Or.inl ((displays index).mp displayed))
  · apply Mounts.mono loose
    intro index rect displayed isProper isExact
    rcases apart with paged | hidden
    · exact (isProper isExact).2 paged
    · have shows := displayed.2
      simp [showsPane, hidden] at shows

/-! ## Steps -/

namespace Attached

variable [PaneHost σ] {exact : Prop} {deck after : Deck μ σ} {outcome : Outcome} {index : Nat}

omit [PaneHost σ] in
/-- In flick mode another tab may be active with the same panes on the display. -/
theorem loose_withActive (attached : deck.Attached exact) (flicks : deck.settings.flicks = true)
    (index : Nat) (row : PaneRow) (gesture : Gesture) :
    ({ deck.withActive index with row, gesture } : Deck μ σ).Loose exact := by
  apply attached.loose
  refine ⟨rfl, rfl, rfl, rfl, ?_⟩
  intro other
  simp [Displays, showsPane, withActive, flicks]

theorem activate_of_flicks (attached : deck.Attached exact) (flicks : deck.settings.flicks = true)
    (distinct : after.DistinctPanes) (done : deck.activate index = .ok (outcome, after)) :
    after.Attached exact := by
  rcases activate_eq_ok_of_flicks flicks done with ⟨row, mid, -, moved, rfl⟩
  have loose := attached.loose_withActive flicks index row deck.gesture.forget
  have arranged := restyled_arrange mid
  exact (loose.moveAll (arranged.distinctPanes distinct) moved).restyled arranged

/-- In paged mode only the active pane is shown, so that exchanging it leaves just the new one. -/
theorem exchangePanes (attached : deck.Attached exact) (paged : deck.settings.flicks = false)
    (distinct : after.DistinctPanes)
    (done : deck.exchangePanes deck.active index = .ok after) :
    after.Mounts (fun other rect => other = index ∨ False → rect = after.paneBounds other)
      (fun other => other = index ∨ False) := by
  rcases exchangePanes_eq_ok done with ⟨middle, unmounted, mounted⟩
  have distinctMiddle := (served_of_mountPane mounted).distinctPanes distinct
  have active : ∀ other, deck.Displays other → deck.active = some other := by
    rintro other ⟨-, shows⟩
    simp only [showsPane, paged, Bool.false_or, Bool.and_eq_true, decide_eq_true_eq] at shows
    exact shows.2
  have emptied : middle.Mounts (fun other rect => False → rect = middle.paneBounds other)
      (fun _ => False) := by
    cases previous : deck.active with
    | none =>
      rw [previous] at unmounted
      simp only at unmounted
      subst unmounted
      apply (Mounts.mono attached fun _ _ _ _ => False.elim).of_iff
      intro other
      refine ⟨False.elim, fun displayed => ?_⟩
      have isActive := active other displayed
      rw [previous] at isActive
      cases isActive
    | some old =>
      rw [previous] at unmounted
      have distinctDeck := (served_of_unmountPane unmounted).distinctPanes distinctMiddle
      have left := Mounts.unmountPane attached distinctDeck unmounted
      apply (left.mono fun _ _ _ _ => False.elim).of_iff
      intro other
      refine ⟨False.elim, fun ⟨displayed, apart⟩ => ?_⟩
      have isActive := active other displayed
      rw [previous, Option.some.injEq] at isActive
      exact apart isActive.symm
  exact emptied.mountPane distinct mounted

theorem activate_of_paged (attached : deck.Attached exact) (paged : deck.settings.flicks = false)
    (present : index < deck.tabs.length) (distinct : after.DistinctPanes)
    (done : deck.activate index = .ok (outcome, after)) : after.Attached exact := by
  rcases activate_eq_ok_of_paged paged done with ⟨mid, exchanged, kept, rfl⟩
  apply Attached.restyled _ (restyled_arrange _)
  have distinctMid : mid.DistinctPanes := (restyled_arrange _).distinctPanes distinct
  cases laidOut : deck.laidOut with
  | true =>
    have served := served_of_exchangePanes (exchanged laidOut)
    have keeps := Keeps.of_served served
    have mounts := attached.exchangePanes paged distinctMid (exchanged laidOut)
    apply ((mounts.congr _ _).mono _).of_iff
    · intro other
      have pagedMid : mid.settings.flicks = false := keeps.settings ▸ paged
      have laidOutMid : mid.laidOut = true := keeps.laidOut.trans laidOut
      have presentMid : index < mid.tabs.length := keeps.length ▸ present
      simp only [Displays, showsPane, pagedMid, laidOutMid, Bool.true_and, Bool.false_or,
        decide_eq_true_eq, Option.some.injEq, or_false]
      constructor
      · rintro ⟨-, same⟩
        exact same.symm
      · rintro rfl
        exact ⟨presentMid, rfl⟩
    · exact fun _ => rfl
    · exact fun _ => rfl
    · intro other rect isMounted isProper _
      exact isProper isMounted
  | false =>
    have same := kept laidOut
    subst same
    apply attached.congr
    · exact fun _ => rfl
    · exact fun _ => rfl
    · intro other
      simp [Displays, showsPane, laidOut]
    · exact fun _ _ => rfl

theorem activate (attached : deck.Attached exact) (present : index < deck.tabs.length)
    (distinct : after.DistinctPanes) (done : deck.activate index = .ok (outcome, after)) :
    after.Attached exact := by
  cases flicks : deck.settings.flicks with
  | true => exact attached.activate_of_flicks flicks distinct done
  | false => exact attached.activate_of_paged flicks present distinct done

theorem switched (attached : deck.Attached exact) (distinct : after.DistinctPanes)
    (switched : deck.Switched after) : after.Attached exact := by
  rcases switched with rfl | ⟨index, outcome, present, -, activated⟩
  · exact attached
  · exact attached.activate present distinct activated

/-- Moved panes follow the row. -/
theorem moveAll {shifted : Deck μ σ} (attached : deck.Attached exact) (alike : deck.Alike shifted)
    (distinct : after.DistinctPanes) (done : shifted.moveAll = .ok after) :
    after.Attached exact :=
  (attached.loose alike).moveAll distinct done

theorem move (attached : deck.Attached exact) (distinct : after.DistinctPanes)
    (move : Move deck after) : after.Attached exact := by
  cases move with
  | restyle restyled => exact attached.restyled restyled
  | adjust gesture row pressed enabled size offset =>
    exact attached.unmoved ⟨rfl, rfl, rfl, rfl, fun _ => Iff.rfl⟩ offset size.2.1
  | slide gesture row pressed size moved =>
    refine attached.moveAll ?_ distinct moved
    exact ⟨rfl, rfl, rfl, rfl, fun _ => Iff.rfl⟩
  | activate present activated => exact attached.activate present distinct activated

/-- In flick mode all panes are mounted, which leaves no others if those shown are of the deck. -/
theorem mountAll {shown : Nat → Prop} (mounts : deck.Mounts (fun _ _ => True) shown)
    (belong : ∀ other, shown other → deck.Displays other) (flicks : deck.settings.flicks = true)
    (laidOut : deck.laidOut = true) (distinct : after.DistinctPanes)
    (done : deck.mountAll = .ok after) : after.Attached exact := by
  have keeps := Keeps.of_served (served_of_mountAll done)
  have initial : deck.Mounts (fun other rect => False → rect = deck.paneBounds other) shown :=
    mounts.mono fun _ _ _ _ => False.elim
  have each := initial.mountEach (List.range deck.tabs.length) distinct done
  have displays : ∀ other, after.Displays other ↔ other < deck.tabs.length := by
    intro other
    simp [Displays, showsPane, keeps.settings, keeps.laidOut, keeps.length, flicks, laidOut]
  apply (each.mono _).of_iff
  · intro other
    rw [displays, List.mem_range]
    constructor
    · exact Or.inl
    · rintro (present | wasShown)
      · exact present
      · exact (belong other wasShown).1
  · rintro other rect (member | wasShown) isProper _
    · exact isProper (Or.inl member)
    · exact isProper (Or.inl (List.mem_range.mpr (belong other wasShown).1))

/-- In paged mode the active pane is mounted. Another one would have to belong there. -/
theorem mountActive {shown : Nat → Prop} (mounts : deck.Mounts (fun _ _ => True) shown)
    (belong : ∀ other, shown other → deck.Displays other) (paged : deck.settings.flicks = false)
    (laidOut : deck.laidOut = true) (active : deck.active = some index)
    (distinct : after.DistinctPanes) (done : deck.mountPane index = .ok after) :
    after.Attached exact := by
  have served := served_of_mountPane done
  have keeps := Keeps.of_served served
  have initial : deck.Mounts (fun other rect => False → rect = deck.paneBounds other) shown :=
    mounts.mono fun _ _ _ _ => False.elim
  have mounted := initial.mountPane distinct done
  have activeAfter : after.active = some index := by
    rcases served with ⟨_, _, rfl, -⟩
    exact active
  have present : index < deck.tabs.length := by
    rcases mountPane_eq_ok done with ⟨handle, mid, found, -⟩
    rcases paneOf_eq_ok found with ⟨tab, present, -⟩
    exact (List.getElem?_eq_some_iff.mp present).1
  have displays : ∀ other, after.Displays other ↔ other = index := by
    intro other
    simp only [Displays, showsPane, keeps.settings, keeps.laidOut, keeps.length, paged, laidOut,
      activeAfter, Bool.true_and, Bool.false_or, decide_eq_true_eq, Option.some.injEq]
    constructor
    · rintro ⟨-, same⟩
      exact same.symm
    · rintro rfl
      exact ⟨present, rfl⟩
  have onlyActive : ∀ other, shown other → other = index := by
    intro other wasShown
    have shows := (belong other wasShown).2
    simp only [showsPane, paged, active, Bool.false_or, Bool.and_eq_true, decide_eq_true_eq,
      Option.some.injEq] at shows
    exact shows.2.symm
  apply (mounted.mono _).of_iff
  · intro other
    rw [displays]
    constructor
    · exact Or.inl
    · rintro (same | wasShown)
      · exact same
      · exact onlyActive other wasShown
  · rintro other rect (same | wasShown) isProper _
    · exact isProper (Or.inl same)
    · exact isProper (Or.inl (onlyActive other wasShown))

/-- Showing the panes shows all that belong on the display, and no others if none are there. -/
theorem showPanes {shown : Nat → Prop} (mounts : deck.Mounts (fun _ _ => True) shown)
    (belong : ∀ other, shown other → deck.Displays other) (laidOut : deck.laidOut = true)
    (distinct : after.DistinctPanes) (done : deck.showPanes = .ok after) :
    after.Attached exact := by
  cases flicks : deck.settings.flicks with
  | true =>
    rcases showPanes_eq_ok_of_flicks flicks done with ⟨row, -, -, mounted⟩
    have aligned : ({ deck with row } : Deck μ σ).Mounts (fun _ _ => True) shown := by
      apply mounts.congr
      · exact fun _ => rfl
      · exact fun _ => rfl
    exact mountAll aligned belong flicks laidOut distinct mounted
  | false =>
    rcases showPanes_eq_ok_of_paged flicks done with ⟨mounted, kept⟩
    cases isActive : deck.active with
    | some index =>
      exact mountActive mounts belong flicks laidOut isActive distinct (mounted index isActive)
    | none =>
      have same := kept isActive
      subst same
      have nothing : ∀ other, ¬ after.Displays other := by
        intro other displayed
        have shows := displayed.2
        simp [showsPane, flicks, isActive] at shows
      apply (mounts.mono _).of_iff
      · intro other
        exact ⟨fun displayed => absurd displayed (nothing other), belong other⟩
      · intro other rect wasShown
        exact absurd (belong other wasShown) (nothing other)

/-- Panes are shown in the new place of the deck, whether or not they were shown before. -/
theorem displayed [FontMetrics μ] {measured shown : Deck μ σ} {bounds area : Rect} {row : PaneRow}
    (attached : deck.Attached exact)
    (restyled : ({ deck with bounds, laidOut := true } : Deck μ σ).Restyled measured)
    (distinct : shown.DistinctPanes)
    (showed : { measured with paneArea := area, row }.showPanes = .ok shown) :
    shown.Attached exact := by
  have keeps := Keeps.of_restyled restyled
  have somewhere : deck.Mounts (fun _ _ => True) deck.Displays :=
    Mounts.mono attached fun _ _ _ _ => trivial
  have mounts : ({ measured with paneArea := area, row } : Deck μ σ).Mounts (fun _ _ => True)
      deck.Displays := by
    apply somewhere.congr
    · rcases restyled with ⟨_, _, _, _, _, _, _, _, rfl, -⟩
      exact fun _ => rfl
    · exact fun other => restyled.paneAt other
  apply showPanes mounts _ keeps.laidOut distinct showed
  rintro other ⟨present, shows⟩
  refine ⟨keeps.length ▸ present, ?_⟩
  simp only [showsPane, Bool.and_eq_true] at shows
  rcases restyled with ⟨_, _, _, _, _, _, _, _, rfl, -⟩
  simp only [showsPane, shows.2, Bool.true_and]

/-- A placement shows the panes, and then a tab becomes active if none was. -/
theorem placeAt [FontMetrics μ] {bounds : Rect} (attached : deck.Attached exact)
    (distinct : after.DistinctPanes) (done : deck.placeAt bounds = .ok (outcome, after)) :
    after.Attached exact := by
  rcases placeAt_eq_ok done with ⟨measured, area, row, stripWidth, shown, last, restyled, -, -,
    showed, stays, selects, rfl⟩
  have arranged := restyled_arrange last
  have distinctLast := arranged.distinctPanes distinct
  have chosen : shown.Switched last := switched_of_placement stays selects
  have attachedShown := attached.displayed restyled (chosen.distinctPanes distinctLast) showed
  exact (attachedShown.switched distinctLast chosen).restyled arranged

/-- A shown pane may be exchanged for another one. -/
theorem exchanged {middle : Deck μ σ} {tab : Tab} (attached : deck.Attached exact)
    (displayed : deck.Displays index) (distinctBefore : deck.DistinctPanes)
    (distinct : after.DistinctPanes) (unmounted : deck.unmountPane index = .ok middle)
    (mounted : { middle with tabs := middle.tabs.set index tab }.mountPane index = .ok after) :
    after.Attached exact := by
  have left := Mounts.unmountPane attached distinctBefore unmounted
  have emptied := served_of_unmountPane unmounted
  have kept : middle.Mounts (fun other rect => exact → rect = middle.paneBounds other)
      (fun other => deck.Displays other ∧ other ≠ index) := by
    apply left.mono
    intro other rect _ isProper
    rw [emptied.paneBounds]
    exact isProper
  have one := (kept.setPane tab fun here => here.2 rfl).mountPane distinct mounted
  have served := served_of_mountPane mounted
  have displays : ∀ other, after.Displays other ↔ deck.Displays other := by
    intro other
    rw [Displays, Displays, served.length_tabs, List.length_set, emptied.length_tabs]
    rcases served with ⟨_, _, rfl, -⟩
    rcases emptied with ⟨_, _, rfl, -⟩
    exact Iff.rfl
  apply (one.mono _).of_iff
  · intro other
    rw [displays]
    by_cases same : other = index
    · subst same
      exact ⟨fun _ => Or.inl rfl, fun _ => displayed⟩
    · constructor
      · exact fun isDisplayed => Or.inr ⟨isDisplayed, same⟩
      · intro either
        exact (either.resolve_left same).1
  · intro other rect _ isProper isExact
    exact isProper (Or.inr isExact)

/-- A supplied pane that is shown takes the place of the old one. -/
theorem supplyPane {handle : PaneId} (attached : deck.Attached exact)
    (distinctBefore : deck.DistinctPanes) (distinct : after.DistinctPanes)
    (done : deck.supplyPane index handle = .ok (outcome, after)) : after.Attached exact := by
  rcases supplyPane_eq_ok done with rfl | ⟨tab, link, present, rfl, stays, exchanges⟩
  · exact attached
  have bound := (List.getElem?_eq_some_iff.mp present).1
  cases shows : deck.showsPane index with
  | true =>
    rcases exchanges shows with ⟨emptied, unmounted, mounted⟩
    exact attached.exchanged ⟨bound, shows⟩ distinctBefore distinct unmounted mounted
  | false =>
    have hidden : ¬ deck.Displays index := by
      rintro ⟨-, isShown⟩
      rw [shows] at isShown
      cases isShown
    rw [stays shows]
    have supplied := Mounts.setPane attached { tab with pane := some handle } hidden
    apply supplied.of_iff
    intro other
    simp only [Displays, List.length_set]
    exact Iff.rfl

/-- Moves keep the panes attached, as long as no two tabs have the same pane afterwards. That the
panes are distinct travels back along the moves, from the last deck to the first. -/
theorem moves (attached : deck.Attached exact) (distinct : after.DistinctPanes)
    (moves : deck.Moves after) : after.Attached exact := by
  suffices keeps : after.DistinctPanes →
      deck.DistinctPanes ∧ (deck.Attached exact → after.Attached exact) from
    (keeps distinct).2 attached
  apply moves.related
  · exact fun _ distinctHere => ⟨distinctHere, id⟩
  · intro first second third earlier later distinctThird
    rcases later distinctThird with ⟨distinctSecond, laterKeeps⟩
    rcases earlier distinctSecond with ⟨distinctFirst, earlierKeeps⟩
    exact ⟨distinctFirst, laterKeeps ∘ earlierKeeps⟩
  · intro before after move distinctAfter
    exact ⟨move.distinctPanes distinctAfter, fun known => known.move distinctAfter move⟩

/-- Asking for the pane of a tab may create it, but shows nothing. -/
theorem paneOf {handle : PaneId} (attached : deck.Attached exact)
    (found : deck.paneOf index = .ok (handle, after)) : after.Attached exact := by
  have served := (served_of_paneOf found).1
  have length := served.length_tabs
  apply ((Mounts.paneOf attached found).mono _).of_iff
  · intro other
    rw [Displays, Displays, length]
    rcases served with ⟨_, _, rfl, -⟩
    exact Iff.rfl
  · intro other rect _ isProper isExact
    rw [served.paneBounds]
    exact isProper isExact

theorem enterPane {forward : Bool} (attached : deck.Attached exact)
    (done : deck.enterPane forward = .ok (outcome, after)) : after.Attached exact := by
  rcases enterPane_eq_ok done with ⟨-, rfl⟩ |
    ⟨active, handle, mid, granted, link, -, found, asked, kept, refused⟩
  · exact attached.unmoved ⟨rfl, rfl, rfl, rfl, fun _ => Iff.rfl⟩ rfl rfl
  have created := attached.paneOf found
  have shown : ∀ other, link.shown other = mid.link.shown other := by
    intro other
    have asks : (mid.link.takeFocus handle forward).2 = link := congrArg Prod.snd asked
    rw [← asks, PaneLink.shown_takeFocus]
  cases granted with
  | true =>
    rw [kept rfl]
    exact created.congr shown (fun _ => rfl) (fun _ => Iff.rfl) fun _ _ => rfl
  | false =>
    rw [refused rfl]
    exact created.congr shown (fun _ => rfl) (fun _ => Iff.rfl) fun _ _ => rfl

theorem handleFocus {event : KeyFocus.Event} (attached : deck.Attached exact)
    (distinct : after.DistinctPanes) (done : deck.handleFocus event = .ok (outcome, after)) :
    after.Attached exact := by
  rcases handleFocus_eq_ok done with ⟨-, rfl, -⟩ | ⟨focus, task, inner, -, -, -, followed⟩
  · exact attached
  have focused : ({ deck with focus } : Deck μ σ).Attached exact :=
    attached.unmoved ⟨rfl, rfl, rfl, rfl, fun _ => Iff.rfl⟩ rfl rfl
  rcases followFocus_eq_ok followed with ⟨_, -, switched⟩ | ⟨forward, -, entered⟩ | rfl
  · exact focused.switched distinct switched
  · exact focused.enterPane entered
  · exact focused

omit [PaneHost σ] in
/-- New captions leave the panes in place if the area of the panes stays the same. -/
theorem relabel [FontMetrics μ] {captions : List Caption} (attached : deck.Attached exact)
    (kept : exact → deck.laidOut = true → after.paneArea = deck.paneArea)
    (done : deck.relabel captions = .ok (outcome, after)) : after.Attached exact := by
  rcases relabel_eq_ok done with ⟨mid, area, restyled, -, rfl⟩
  have same : exact → mid.laidOut = true → area = mid.paneArea := by
    intro isExact laidOut
    rcases restyled with ⟨_, _, _, _, _, _, _, _, rfl, -⟩
    exact kept isExact laidOut
  have refitted : ({ mid with paneArea := area } : Deck μ σ).Attached exact := by
    have before := attached.restyled restyled
    refine ⟨?_, fun handle isShown => Mounts.only before handle isShown⟩
    intro index displayed
    rcases Mounts.inPlace before index displayed with ⟨handle, rect, given, isShown, isProper⟩
    refine ⟨handle, rect, given, isShown, fun isExact => ?_⟩
    have shows := displayed.2
    simp only [showsPane, Bool.and_eq_true] at shows
    have unchanged := same isExact shows.1
    subst unchanged
    exact isProper isExact
  exact refitted.restyled (restyled_arrange _)

/-- Every action leaves the panes where they belong, unless new captions change their area. -/
theorem perform [FontMetrics μ] {action : Action} {answer : Answer} (attached : deck.Attached exact)
    (distinctBefore : deck.DistinctPanes) (distinct : after.DistinctPanes)
    (kept : exact → ∀ captions, action = .relabel captions → deck.laidOut = true →
      after.paneArea = deck.paneArea)
    (done : deck.perform action = .ok (answer, after)) : after.Attached exact := by
  cases performs_of_perform done with
  | moves moves => exact attached.moves distinct moves
  | places bounds outcome same placed => exact attached.placeAt distinct placed
  | supplies index handle outcome same supplied =>
    exact attached.supplyPane distinctBefore distinct supplied
  | relabels captions outcome same relabelled =>
    exact attached.relabel (fun isExact => kept isExact captions same) relabelled
  | focuses event outcome handled => exact attached.handleFocus distinct handled

end Attached

/-! ## Sessions -/

section Sessions

variable [FontMetrics μ] [PaneHost σ]

/-- New captions change the area of the panes of a placed deck. -/
def Misplaces (deck : Deck μ σ) (action : Action) : Prop :=
  ∃ captions, action = .relabel captions ∧ deck.laidOut = true ∧
    ∃ answer after, deck.perform action = .ok (answer, after) ∧ after.paneArea ≠ deck.paneArea

omit [FontMetrics μ] [PaneHost σ] in
/-- The place of a pane tells the area of the panes, with the bounds and the row given. -/
theorem paneArea_eq_of_paneBounds {before after : Deck μ σ} {index : Nat}
    (bounds : after.bounds = before.bounds) (settings : after.settings = before.settings)
    (left : after.row.paneLeft index = before.row.paneLeft index)
    (same : before.paneBounds index = after.paneBounds index) :
    after.paneArea = before.paneArea := by
  have rects : before.paneRect = after.paneRect := by
    simp only [paneBounds, settings, left] at same
    split at same
    · exact Rect.shiftBy_cancel same
    · exact same
  simp only [paneRect, bounds, Rect.mk.injEq] at rects
  have origin := Point.add_left_cancel rects.1
  rcases areas : after.paneArea with ⟨corner, size⟩
  rcases areasBefore : before.paneArea with ⟨cornerBefore, sizeBefore⟩
  rw [areas, areasBefore] at origin rects
  rw [Rect.mk.injEq]
  exact ⟨origin.symm, rects.2.symm⟩

/-- The active pane is shown in either mode, and left behind by captions that change the area. -/
theorem Misplaces.leaves {deck : Deck μ σ} {action : Action} (misplaces : deck.Misplaces action)
    (attached : deck.Attached True) (coherent : deck.Coherent)
    (active : deck.laidOut = true → deck.active.isSome = true) :
    ∃ answer after, deck.perform action = .ok (answer, after) ∧ ¬ after.PanesInPlace := by
  rcases misplaces with ⟨captions, rfl, laidOut, answer, after, performed, changed⟩
  refine ⟨answer, after, performed, fun inPlace => changed ?_⟩
  rcases Option.isSome_iff_exists.mp (active laidOut) with ⟨index, isActive⟩
  have displayed : deck.Displays index := by
    refine ⟨coherent.present index isActive, ?_⟩
    simp [showsPane, laidOut, isActive]
  rcases Mounts.inPlace attached index displayed with ⟨handle, rect, given, isShown, isProper⟩
  rcases acceptedOr_eq_ok.mp performed with ⟨outcome, relabelled, -⟩ | ⟨_, -, rfl, -⟩
  · rcases relabel_eq_ok relabelled with ⟨mid, area, restyled, -, rfl⟩
    have givenAfter : mid.paneAt index = some handle := (restyled.paneAt index).trans given
    have placeAfter := inPlace index handle rect givenAfter
    rcases restyled with ⟨_, _, _, _, _, _, _, _, rfl, -⟩
    have place := placeAfter isShown
    rw [isProper trivial] at place
    exact paneArea_eq_of_paneBounds rfl rfl rfl place
  · rfl

variable {capacity : Nat} {captions : List Caption} {metrics : μ} {host : σ} {settings : Settings}
  {start : Deck μ σ}

omit [PaneHost σ] in
theorem attached_ofCaptions {exact : Prop}
    (made : ofCaptions capacity captions metrics host settings = .ok start) :
    start.Attached exact := by
  rcases ofCaptions_eq_ok made with ⟨-, tabs, strip, -, rfl⟩
  refine ⟨?_, nofun⟩
  rintro index ⟨-, shows⟩
  simp [showsPane] at shows

/-- The panes of a deck are in place throughout a session exactly if no new captions change the
area of the panes after the deck was placed. The host must not give two tabs one pane. -/
theorem panes_in_place_iff
    (made : ofCaptions capacity captions metrics host settings = .ok start)
    (actions : List Action)
    (distinct : start.Throughout actions fun _ deck => deck.DistinctPanes) :
    (start.Throughout actions fun _ deck => deck.PanesInPlace) ↔
      start.Avoids actions Misplaces := by
  have coherent := coherent_ofCaptions made
  have unplaced : start.laidOut = false := by
    rcases ofCaptions_eq_ok made with ⟨-, _, _, -, rfl⟩
    rfl
  apply throughout_iff_avoids (fun _ deck => deck.Attached True) (attached_ofCaptions made)
  · intro earlier deck within reached attached
    exact attached.inPlace (distinct earlier within deck reached)
  · intro earlier before action answer after within reached attached harmless performed
    have shorter : earlier <+: actions := (List.prefix_append earlier [action]).trans within
    have reachedAfter := reaches_snoc.mpr ⟨before, answer, reached, performed⟩
    refine attached.perform (distinct earlier shorter before reached)
      (distinct _ within after reachedAfter) ?_ performed
    intro _ captions relabels laidOut
    by_contra changed
    exact harmless ⟨captions, relabels, laidOut, answer, after, performed, changed⟩
  · intro earlier before action _ reached attached misplaces
    exact misplaces.leaves attached (reached.coherent coherent) (reached.active coherent unplaced)

end Sessions

/-! ## Captions that need a higher strip -/

/-- Two images of some height. -/
def twoImages (height : Nat) : List Caption :=
  [.image ⟨1, ⟨20, height⟩⟩, .image ⟨2, ⟨20, height⟩⟩]

/-- A placement, and then captions of some height. -/
def relabelled (height : Nat) : List Action :=
  [.placeAt ⟨⟨0, 0⟩, ⟨300, 100⟩⟩, .relabel (twoImages height)]

/-- Captions of the same height leave the panes in place. -/
theorem panes_in_place_at_same_height :
    ∃ start : Deck FixedAdvance DemoPanes,
      ofCaptions 8 (twoImages 10) ⟨6, 7, 10⟩ {} {} = .ok start ∧
      (start.Throughout (relabelled 10) fun _ deck => deck.DistinctPanes) ∧
      (start.Throughout (relabelled 10) fun _ deck => deck.PanesInPlace) := by
  obtain ⟨start, placed, same, answer, sameAnswer, made, first, second, distinctStart, distinctPlaced,
      distinctSame, area⟩ :
      ∃ start placed same : Deck FixedAdvance DemoPanes, ∃ answer sameAnswer,
        ofCaptions 8 (twoImages 10) ⟨6, 7, 10⟩ {} {} = .ok start ∧
        start.perform (.placeAt ⟨⟨0, 0⟩, ⟨300, 100⟩⟩) = .ok (answer, placed) ∧
        placed.perform (.relabel (twoImages 10)) = .ok (sameAnswer, same) ∧
        start.DistinctPanes ∧ placed.DistinctPanes ∧ same.DistinctPanes ∧
        same.paneArea = placed.paneArea :=
    ⟨_, _, _, _, _, rfl, rfl, rfl, by decide, by decide, by decide, by decide⟩
  have distinct : start.Throughout (relabelled 10) fun _ deck => deck.DistinctPanes := by
    refine (throughout_cons first).mpr ⟨distinctStart, ?_⟩
    exact (throughout_cons second).mpr ⟨distinctPlaced, throughout_nil.mpr distinctSame⟩
  refine ⟨start, made, distinct, (panes_in_place_iff made _ distinct).mpr ?_⟩
  refine (avoids_cons first).mpr ⟨?_, (avoids_cons second).mpr ⟨?_, avoids_nil⟩⟩
  · rintro ⟨_, impossible, -⟩
    cases impossible
  · rintro ⟨_, -, -, _, after, performed, changed⟩
    rw [second] at performed
    cases performed
    exact changed area

/-- Higher captions leave the only pane where the deck had it before the strip became higher. -/
theorem pane_left_behind :
    ∃ start : Deck FixedAdvance DemoPanes,
      ofCaptions 8 (twoImages 10) ⟨6, 7, 10⟩ {} {} = .ok start ∧
      (start.Throughout (relabelled 30) fun _ deck => deck.DistinctPanes) ∧
      ¬ start.Throughout (relabelled 30) fun _ deck => deck.PanesInPlace := by
  obtain ⟨start, placed, higher, answer, higherAnswer, made, first, second, distinctStart,
      distinctPlaced, distinctHigher, given, shown, place⟩ :
      ∃ start placed higher : Deck FixedAdvance DemoPanes, ∃ answer higherAnswer,
        ofCaptions 8 (twoImages 10) ⟨6, 7, 10⟩ {} {} = .ok start ∧
        start.perform (.placeAt ⟨⟨0, 0⟩, ⟨300, 100⟩⟩) = .ok (answer, placed) ∧
        placed.perform (.relabel (twoImages 30)) = .ok (higherAnswer, higher) ∧
        start.DistinctPanes ∧ placed.DistinctPanes ∧ higher.DistinctPanes ∧
        higher.paneAt 0 = some ⟨0⟩ ∧ higher.link.shown ⟨0⟩ = some ⟨⟨1, 14⟩, ⟨298, 84⟩⟩ ∧
        higher.paneBounds 0 = ⟨⟨1, 34⟩, ⟨298, 64⟩⟩ :=
    ⟨_, _, _, _, _, rfl, rfl, rfl, by decide, by decide, by decide, by decide, by decide, by decide⟩
  refine ⟨start, made, ?_, ?_⟩
  · refine (throughout_cons first).mpr ⟨distinctStart, ?_⟩
    exact (throughout_cons second).mpr ⟨distinctPlaced, throughout_nil.mpr distinctHigher⟩
  · intro throughout
    have later := ((throughout_cons first).mp throughout).2
    have last := ((throughout_cons second).mp later).2
    have inPlace := throughout_nil.mp last 0 ⟨0⟩ _ given shown
    rw [place] at inPlace
    exact absurd inPlace (by decide)

end Deck

end TabDeck
