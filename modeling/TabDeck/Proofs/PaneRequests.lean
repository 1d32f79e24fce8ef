import TabDeck.Proofs.Mounting

/-!
# What a deck asks of its host

A deck makes its requests one at a time. `Deck.Request` says what may be asked and when: a pane is
created only for a tab that has none, and only a pane that is shown is moved or unmounted. All
operations on a deck that shows the right panes are made of such requests, so that the log of a
whole session obeys the rules.
-/

namespace TabDeck

/-- A request for a new pane for a tab. -/
def PaneCall.createsFor (tab : Nat) : PaneCall → Bool
  | .create other _ => other = tab
  | .mount _ _ | .unmount _ | .move _ _ | .takeFocus _ _ _ => false

/-- How often a pane was created for a tab. -/
def creations (tab : Nat) (calls : List PaneCall) : Nat := calls.countP (PaneCall.createsFor tab)

/-- Only shown panes were moved and unmounted, by requests of which the latest is the first. -/
def WellAsked : List PaneCall → Prop
  | [] => True
  | .unmount handle :: earlier | .move handle _ :: earlier =>
    (shownBy handle earlier).isSome = true ∧ WellAsked earlier
  | .create _ _ :: earlier | .mount _ _ :: earlier | .takeFocus _ _ _ :: earlier =>
    WellAsked earlier

namespace Deck

variable {μ σ : Type}

/-- The panes that are shown are those that belong on the display, and they are there. -/
structure ShowsItsPanes (deck : Deck μ σ) : Prop where
  /-- In paged mode the active pane is shown. -/
  paged : deck.settings.flicks = false → ∃ active handle, deck.active = some active ∧
    deck.paneAt active = some handle ∧
    ∀ other, (deck.link.shown other).isSome = true ↔ other = handle
  /-- In flick mode there are panes for all tabs, and all are shown. -/
  sideBySide : deck.settings.flicks = true →
    (∀ index < deck.tabs.length, (deck.paneAt index).isSome = true) ∧
    ∀ handle, (deck.link.shown handle).isSome = true ↔ ∃ index, deck.paneAt index = some handle

section Requests

variable [PaneHost σ]

/-- One step of what a deck may ask for, or a change that the host does not see. -/
inductive Request : Deck μ σ → Deck μ σ → Prop where
  | create {before : Deck μ σ} {index : Nat} {tab : Tab} (present : before.tabs[index]? = some tab)
      (missing : tab.pane = none) :
      Request before { before with
        link := (before.link.create index).2
        tabs := before.tabs.set index { tab with pane := some (before.link.create index).1 } }
  | mount {before : Deck μ σ} (handle : PaneId) (rect : Rect) :
      Request before { before with link := before.link.mount handle rect }
  | unmount {before : Deck μ σ} {handle : PaneId}
      (shown : (before.link.shown handle).isSome = true) :
      Request before { before with link := before.link.unmount handle }
  | move {before : Deck μ σ} {handle : PaneId} (shown : (before.link.shown handle).isSome = true)
      (corner : Point) : Request before { before with link := before.link.move handle corner }
  | takeFocus {before : Deck μ σ} (handle : PaneId) (forward : Bool) :
      Request before { before with link := (before.link.takeFocus handle forward).2 }
  /-- The host supplies a pane of its own. -/
  | supply {before : Deck μ σ} {index : Nat} {tab : Tab} (present : before.tabs[index]? = some tab)
      (handle : PaneId) :
      Request before { before with
        tabs := before.tabs.set index { tab with pane := some handle } }
  /-- Nothing is asked, and the tabs keep their panes. -/
  | silent {before after : Deck μ σ} (link : after.link = before.link)
      (panes : after.tabs.map Tab.pane = before.tabs.map Tab.pane) : Request before after

/-- The pane of the tab is there and shown. -/
def ShowsPaneOf (deck : Deck μ σ) (index : Nat) : Prop :=
  ∃ handle, deck.paneAt index = some handle ∧ (deck.link.shown handle).isSome = true

omit [PaneHost σ] in
theorem Mounts.showsPaneOf {deck : Deck μ σ} {proper : Nat → Rect → Prop} {mounted : Nat → Prop}
    {index : Nat} (mounts : deck.Mounts proper mounted) (here : mounted index) :
    deck.ShowsPaneOf index := by
  rcases mounts.inPlace index here with ⟨handle, rect, given, shown, -⟩
  refine ⟨handle, given, ?_⟩
  rw [shown]
  rfl

theorem ShowsPaneOf.movePane {deck after : Deck μ σ} {index other : Nat}
    (shows : deck.ShowsPaneOf other) (done : deck.movePane index = .ok after) :
    after.ShowsPaneOf other := by
  rcases shows with ⟨handle, given, shown⟩
  rcases movePane_eq_ok done with ⟨moved, mid, found, rfl⟩
  refine ⟨handle, (served_of_paneOf found).1.paneAt given, ?_⟩
  apply PaneLink.isSome_shown_move
  rw [Mounts.shown_of_paneOf found]
  exact shown

/-- One request after the other. -/
def Asks (before after : Deck μ σ) : Prop := Relation.ReflTransGen Request before after

theorem Request.asks {before after : Deck μ σ} (request : Request before after) :
    before.Asks after :=
  Relation.ReflTransGen.single request

namespace Asks

variable {before after deck : Deck μ σ} {outcome : Outcome} {index : Nat}

theorem refl (deck : Deck μ σ) : deck.Asks deck := Relation.ReflTransGen.refl

theorem trans {first second third : Deck μ σ} (earlier : first.Asks second)
    (later : second.Asks third) : first.Asks third :=
  Relation.ReflTransGen.trans earlier later

theorem of_silent (link : after.link = before.link)
    (panes : after.tabs.map Tab.pane = before.tabs.map Tab.pane) : before.Asks after :=
  (Request.silent link panes).asks

theorem of_restyled (restyled : before.Restyled after) : before.Asks after := by
  rcases restyled with ⟨_, _, _, _, _, _, _, _, rfl, panes⟩
  exact of_silent rfl panes

/-! ## Single panes -/

theorem of_paneOf {handle : PaneId} (found : deck.paneOf index = .ok (handle, after)) :
    deck.Asks after := by
  rcases paneOf_eq_ok found with ⟨tab, present, ⟨-, rfl⟩ | ⟨missing, rfl, rfl⟩⟩
  · exact refl after
  · exact (Request.create present missing).asks

theorem of_mountPane (done : deck.mountPane index = .ok after) : deck.Asks after := by
  rcases mountPane_eq_ok done with ⟨handle, mid, found, rfl⟩
  exact (of_paneOf found).trans (Request.mount handle _).asks

theorem of_unmountPane (shows : deck.ShowsPaneOf index)
    (done : deck.unmountPane index = .ok after) : deck.Asks after := by
  rcases shows with ⟨shownHandle, givenHere, shown⟩
  rcases unmountPane_eq_ok done with ⟨tab, present, ⟨-, rfl⟩ | ⟨handle, given, rfl⟩⟩
  · exact refl after
  · simp only [paneAt, present, Option.bind_some, given, Option.some.injEq] at givenHere
    subst givenHere
    exact (Request.unmount shown).asks

theorem of_movePane (shows : deck.ShowsPaneOf index) (done : deck.movePane index = .ok after) :
    deck.Asks after := by
  rcases shows with ⟨shownHandle, givenHere, shown⟩
  rcases movePane_eq_ok done with ⟨handle, mid, found, rfl⟩
  have same := (served_of_paneOf found).1.paneAt givenHere
  rw [Mounts.paneAt_of_paneOf found, Option.some.injEq] at same
  subst same
  rw [← Mounts.shown_of_paneOf found] at shown
  exact (of_paneOf found).trans (Request.move shown _).asks

theorem of_moveEach (items : List Nat) (shows : ∀ index ∈ items, deck.ShowsPaneOf index)
    (done : items.foldlM Deck.movePane deck = .ok after) : deck.Asks after := by
  induction items generalizing deck with
  | nil =>
    rw [List.foldlM_nil, pure_eq_ok] at done
    rw [done]
    exact refl after
  | cons index rest ih =>
    rw [List.foldlM_cons, bind_eq_ok] at done
    rcases done with ⟨middle, first, later⟩
    apply (of_movePane (shows index List.mem_cons_self) first).trans
    refine ih ?_ later
    intro other member
    exact (shows other (List.mem_cons_of_mem index member)).movePane first

/-! ## Operations on attached panes -/

variable {exact : Prop} {proper : Nat → Rect → Prop}

theorem of_moveAll (mounts : deck.Mounts proper deck.Displays) (done : deck.moveAll = .ok after) :
    deck.Asks after := by
  rcases moveAll_eq_ok done with ⟨flicks, laidOut, moved⟩ | ⟨-, rfl⟩
  · refine of_moveEach _ ?_ moved
    intro index member
    apply mounts.showsPaneOf
    refine ⟨List.mem_range.mp member, ?_⟩
    simp only [showsPane, flicks, laidOut, Bool.true_or, Bool.and_self]
  · exact refl after

/-- The pane that is taken away is the active one, which is shown in both modes. -/
theorem of_exchangePanes (attached : deck.Attached exact) (laidOut : deck.laidOut = true)
    (done : deck.exchangePanes deck.active index = .ok after) : deck.Asks after := by
  rcases exchangePanes_eq_ok done with ⟨middle, unmounted, mounted⟩
  apply trans _ (of_mountPane mounted)
  cases isActive : deck.active with
  | none =>
    simp only [isActive] at unmounted
    rw [unmounted]
    exact refl deck
  | some previous =>
    simp only [isActive] at unmounted
    refine of_unmountPane (Mounts.showsPaneOf attached ?_) unmounted
    rcases unmountPane_eq_ok unmounted with ⟨tab, present, -⟩
    refine ⟨(List.getElem?_eq_some_iff.mp present).1, ?_⟩
    simp only [showsPane, laidOut, isActive, decide_true, Bool.or_true, Bool.and_self]

theorem of_activate (attached : deck.Attached exact)
    (done : deck.activate index = .ok (outcome, after)) : deck.Asks after := by
  cases flicks : deck.settings.flicks with
  | true =>
    rcases activate_eq_ok_of_flicks flicks done with ⟨row, mid, -, moved, rfl⟩
    have loose := attached.loose_withActive flicks index row deck.gesture.forget
    have chosen : deck.Asks { deck.withActive index with row, gesture := deck.gesture.forget } :=
      of_silent rfl rfl
    exact (chosen.trans (of_moveAll loose moved)).trans (of_restyled (restyled_arrange mid))
  | false =>
    rcases activate_eq_ok_of_paged flicks done with ⟨mid, exchanged, kept, rfl⟩
    have chosen : mid.Asks { mid with
        lastActive := deck.active, active := some index, pressed := none } := of_silent rfl rfl
    apply trans _ (chosen.trans (of_restyled (restyled_arrange _)))
    cases laidOut : deck.laidOut with
    | true => exact of_exchangePanes attached laidOut (exchanged laidOut)
    | false =>
      rw [kept laidOut]
      exact refl deck

theorem of_switched (attached : deck.Attached exact) (switched : deck.Switched after) :
    deck.Asks after := by
  rcases switched with rfl | ⟨index, outcome, -, -, activated⟩
  · exact refl after
  · exact of_activate attached activated

theorem of_showPanes (done : deck.showPanes = .ok after) : deck.Asks after :=
  showPanes_related refl trans (fun _ => of_silent rfl rfl) of_mountPane done

theorem of_placeAt [FontMetrics μ] {bounds : Rect} (attached : deck.Attached exact)
    (distinct : after.DistinctPanes) (done : deck.placeAt bounds = .ok (outcome, after)) :
    deck.Asks after := by
  rcases placeAt_eq_ok done with ⟨measured, area, row, stripWidth, shown, last, restyled, -, -,
    showed, stays, selects, rfl⟩
  have arranged := restyled_arrange last
  have chosen : shown.Switched last := switched_of_placement stays selects
  have distinctShown := chosen.distinctPanes (arranged.distinctPanes distinct)
  have attachedShown : shown.Attached exact := attached.displayed restyled distinctShown showed
  have sized : deck.Asks { deck with bounds, laidOut := true } := of_silent rfl rfl
  have fitted : measured.Asks { measured with paneArea := area, row } := of_silent rfl rfl
  have displayed := (sized.trans (of_restyled restyled)).trans (fitted.trans (of_showPanes showed))
  exact displayed.trans ((of_switched attachedShown chosen).trans (of_restyled arranged))

/-- A pane that is shown is taken away before its tab is given another, which is shown at last. -/
theorem of_supplyPane {handle : PaneId} (attached : deck.Attached exact)
    (done : deck.supplyPane index handle = .ok (outcome, after)) : deck.Asks after := by
  rcases supplyPane_eq_ok done with rfl | ⟨tab, link, present, rfl, stays, exchanges⟩
  · exact refl after
  cases shows : deck.showsPane index with
  | true =>
    rcases exchanges shows with ⟨emptied, unmounted, mounted⟩
    have bound := (List.getElem?_eq_some_iff.mp present).1
    have taken := of_unmountPane (Mounts.showsPaneOf attached ⟨bound, shows⟩) unmounted
    have presentStill : emptied.tabs[index]? = some tab := by
      rcases unmountPane_eq_ok unmounted with ⟨_, -, ⟨-, rfl⟩ | ⟨_, -, rfl⟩⟩
      · exact present
      · exact present
    exact taken.trans ((Request.supply presentStill handle).asks.trans (of_mountPane mounted))
  | false =>
    rw [stays shows]
    exact (Request.supply present handle).asks

theorem of_move (attached : deck.Attached exact) (move : Move deck after) : deck.Asks after := by
  cases move with
  | restyle restyled => exact of_restyled restyled
  | adjust gesture row pressed enabled size offset => exact of_silent rfl rfl
  | slide gesture row pressed size moved =>
    have loose : ({ deck with gesture, row, pressed } : Deck μ σ).Loose exact :=
      attached.loose ⟨rfl, rfl, rfl, rfl, fun _ => Iff.rfl⟩
    have slid : deck.Asks { deck with gesture, row, pressed } := of_silent rfl rfl
    exact slid.trans (of_moveAll loose moved)
  | activate present activated => exact of_activate attached activated

/-- Moves send one request after the other. As in `Attached.moves`, that panes are distinct is known
of the last deck only. -/
theorem of_moves (attached : deck.Attached exact) (distinct : after.DistinctPanes)
    (moves : deck.Moves after) : deck.Asks after := by
  suffices keeps : after.DistinctPanes → deck.DistinctPanes ∧
      (deck.Attached exact → after.Attached exact ∧ deck.Asks after) from
    ((keeps distinct).2 attached).2
  apply moves.related
  · exact fun first distinctHere => ⟨distinctHere, fun known => ⟨known, refl first⟩⟩
  · intro first second third earlier later distinctThird
    rcases later distinctThird with ⟨distinctSecond, laterKeeps⟩
    rcases earlier distinctSecond with ⟨distinctFirst, earlierKeeps⟩
    refine ⟨distinctFirst, fun known => ?_⟩
    rcases earlierKeeps known with ⟨attachedSecond, asks⟩
    rcases laterKeeps attachedSecond with ⟨attachedThird, asksLater⟩
    exact ⟨attachedThird, asks.trans asksLater⟩
  · intro before after move distinctAfter
    refine ⟨move.distinctPanes distinctAfter, fun known => ?_⟩
    exact ⟨known.move distinctAfter move, of_move known move⟩

theorem of_enterPane {forward : Bool} (done : deck.enterPane forward = .ok (outcome, after)) :
    deck.Asks after := by
  rcases enterPane_eq_ok done with ⟨-, rfl⟩ |
    ⟨active, handle, mid, granted, link, -, found, asked, kept, refused⟩
  · exact of_silent rfl rfl
  have asks : (mid.link.takeFocus handle forward).2 = link := congrArg Prod.snd asked
  have offered : deck.Asks { mid with link } := by
    rw [← asks]
    exact (of_paneOf found).trans (Request.takeFocus handle forward).asks
  cases granted with
  | true =>
    rw [kept rfl]
    exact offered
  | false =>
    rw [refused rfl]
    exact offered.trans (of_silent rfl rfl)

theorem of_handleFocus {event : KeyFocus.Event} (attached : deck.Attached exact)
    (done : deck.handleFocus event = .ok (outcome, after)) : deck.Asks after := by
  rcases handleFocus_eq_ok done with ⟨-, rfl, -⟩ | ⟨focus, task, inner, -, -, -, followed⟩
  · exact refl after
  have focused : ({ deck with focus } : Deck μ σ).Attached exact :=
    attached.unmoved ⟨rfl, rfl, rfl, rfl, fun _ => Iff.rfl⟩ rfl rfl
  apply trans (of_silent rfl rfl : deck.Asks { deck with focus })
  rcases followFocus_eq_ok followed with ⟨_, -, switched⟩ | ⟨forward, -, entered⟩ | rfl
  · exact of_switched focused switched
  · exact of_enterPane entered
  · exact refl _

/-- Every action on attached panes is made of permitted requests. -/
theorem of_perform [FontMetrics μ] {action : Action} {answer : Answer}
    (attached : deck.Attached exact) (distinct : after.DistinctPanes)
    (done : deck.perform action = .ok (answer, after)) : deck.Asks after := by
  cases performs_of_perform done with
  | moves moves => exact of_moves attached distinct moves
  | places bounds outcome _ placed => exact of_placeAt attached distinct placed
  | supplies index handle outcome _ supplied => exact of_supplyPane attached supplied
  | relabels captions outcome _ relabelled =>
    rcases relabel_eq_ok relabelled with ⟨mid, area, restyled, -, rfl⟩
    have refitted : mid.Asks { mid with paneArea := area } := of_silent rfl rfl
    exact (of_restyled restyled).trans (refitted.trans (of_restyled (restyled_arrange _)))
  | focuses event outcome handled => exact of_handleFocus attached handled

end Asks

/-! ## What the requests add up to -/

/-- Tabs keep having a pane, and one is created at most for a tab that has none. -/
structure Creates (before after : Deck μ σ) : Prop where
  kept : ∀ tab, (before.paneAt tab).isSome = true → (after.paneAt tab).isSome = true
  created : ∀ tab, creations tab after.link.calls = creations tab before.link.calls ∨
    (before.paneAt tab = none ∧ (after.paneAt tab).isSome = true ∧
      creations tab after.link.calls = creations tab before.link.calls + 1)

omit [PaneHost σ] in
theorem Creates.trans {first second third : Deck μ σ} (earlier : first.Creates second)
    (later : second.Creates third) : first.Creates third := by
  refine ⟨fun tab given => later.kept tab (earlier.kept tab given), ?_⟩
  intro tab
  rcases earlier.created tab with same | ⟨missing, given, more⟩
  · rcases later.created tab with sameLater | ⟨missingLater, givenLater, moreLater⟩
    · exact Or.inl (sameLater.trans same)
    · refine Or.inr ⟨?_, givenLater, by rw [moreLater, same]⟩
      cases early : first.paneAt tab with
      | none => rfl
      | some handle =>
        have still := earlier.kept tab (by rw [early]; rfl)
        rw [missingLater] at still
        cases still
  · rcases later.created tab with sameLater | ⟨missingLater, -, -⟩
    · exact Or.inr ⟨missing, later.kept tab given, by rw [sameLater, more]⟩
    · rw [missingLater] at given
      cases given

omit [PaneHost σ] in
theorem paneAt_set {deck : Deck μ σ} {index : Nat} {tab : Tab} (link : PaneLink σ)
    (present : deck.tabs[index]? = some tab) (handle : PaneId) (other : Nat) :
    ({ deck with link, tabs := deck.tabs.set index { tab with pane := some handle } } :
      Deck μ σ).paneAt other = if index = other then some handle else deck.paneAt other := by
  have bound := (List.getElem?_eq_some_iff.mp present).1
  simp only [paneAt, List.getElem?_set, bound, if_true]
  split <;> rfl

omit [PaneHost σ] in
theorem isSome_paneAt_set {deck : Deck μ σ} {index : Nat} {tab : Tab} (link : PaneLink σ)
    (present : deck.tabs[index]? = some tab) (handle : PaneId) {other : Nat}
    (given : (deck.paneAt other).isSome = true) :
    (({ deck with link, tabs := deck.tabs.set index { tab with pane := some handle } } :
      Deck μ σ).paneAt other).isSome = true := by
  rw [paneAt_set link present]
  split
  · rfl
  · exact given

variable {before after deck : Deck μ σ}

theorem Request.creates (request : Request before after) : before.Creates after := by
  cases request with
  | @create index tab present missing =>
    refine ⟨fun other => isSome_paneAt_set _ present _, fun other => ?_⟩
    by_cases same : index = other
    · subst same
      refine Or.inr ⟨?_, ?_, ?_⟩
      · simp only [paneAt, present, Option.bind_some, missing]
      · rw [paneAt_set _ present, if_pos rfl]
        rfl
      · simp [creations, PaneLink.create, PaneCall.createsFor]
    · left
      simp [creations, PaneLink.create, PaneCall.createsFor, same]
  | supply present handle =>
    exact ⟨fun other => isSome_paneAt_set _ present _, fun other => Or.inl rfl⟩
  | silent link panes =>
    refine ⟨fun other given => ?_, fun other => Or.inl (by rw [link])⟩
    rwa [paneAt_eq, panes, ← paneAt_eq]
  | mount | unmount | move | takeFocus => exact ⟨fun _ => id, fun _ => Or.inl rfl⟩

theorem Request.wellAsked (request : Request before after) (asked : WellAsked before.link.calls) :
    WellAsked after.link.calls := by
  cases request with
  | unmount shown => exact ⟨shown, asked⟩
  | move shown corner => exact ⟨shown, asked⟩
  | silent link panes =>
    rw [link]
    exact asked
  | create | mount | takeFocus | supply => exact asked

theorem Asks.creates (asks : before.Asks after) : before.Creates after := by
  induction asks with
  | refl => exact ⟨fun _ => id, fun _ => Or.inl rfl⟩
  | tail _ request ih => exact ih.trans request.creates

theorem Asks.wellAsked (asks : before.Asks after) (asked : WellAsked before.link.calls) :
    WellAsked after.link.calls := by
  induction asks with
  | refl => exact asked
  | tail _ request ih => exact request.wellAsked ih

/-- A supplied pane makes a new one needless. -/
theorem creations_of_supplyPane {outcome : Outcome} {index : Nat} {handle : PaneId}
    (done : deck.supplyPane index handle = .ok (outcome, after)) (tab : Nat) :
    creations tab after.link.calls = creations tab deck.link.calls := by
  rcases supplyPane_eq_ok done with rfl | ⟨old, link, present, rfl, stays, exchanges⟩
  · rfl
  cases shows : deck.showsPane index with
  | false => rw [stays shows]
  | true =>
    rcases exchanges shows with ⟨emptied, unmounted, mounted⟩
    have bound := (List.getElem?_eq_some_iff.mp present).1
    rcases unmountPane_eq_ok unmounted with ⟨_, -, ⟨-, rfl⟩ | ⟨_, -, rfl⟩⟩
    all_goals
      rw [mountPane_of_given (List.getElem?_set_self bound) rfl] at mounted
      cases mounted
      rfl

omit [PaneHost σ] in
theorem Attached.showsItsPanes {exact : Prop} (attached : deck.Attached exact)
    (coherent : deck.Coherent) (laidOut : deck.laidOut = true)
    (hasActive : deck.active.isSome = true) : deck.ShowsItsPanes := by
  refine ⟨fun paged => ?_, fun flicks => ?_⟩
  · rcases Option.isSome_iff_exists.mp hasActive with ⟨active, isActive⟩
    have displays : ∀ index, deck.Displays index ↔ index = active := by
      intro index
      simp only [Displays, showsPane, laidOut, paged, isActive, Bool.true_and, Bool.false_or,
        decide_eq_true_eq, Option.some.injEq]
      constructor
      · rintro ⟨-, same⟩
        exact same.symm
      · rintro rfl
        exact ⟨coherent.present index isActive, rfl⟩
    rcases Mounts.showsPaneOf attached ((displays active).mpr rfl) with ⟨handle, given, shown⟩
    refine ⟨active, handle, isActive, given, fun other => ⟨fun isShown => ?_, ?_⟩⟩
    · rcases attached.only other isShown with ⟨index, displayed, givenOther⟩
      rw [(displays index).mp displayed, given] at givenOther
      exact (Option.some.inj givenOther).symm
    · rintro rfl
      exact shown
  · have displays : ∀ index < deck.tabs.length, deck.Displays index := by
      intro index present
      exact ⟨present, by simp only [showsPane, laidOut, flicks, Bool.true_or, Bool.and_self]⟩
    have each : ∀ index < deck.tabs.length, deck.ShowsPaneOf index := by
      intro index present
      exact Mounts.showsPaneOf attached (displays index present)
    refine ⟨?_, fun handle => ⟨fun isShown => ?_, ?_⟩⟩
    · intro index present
      rcases each index present with ⟨handle, given, -⟩
      rw [given]
      rfl
    · rcases attached.only handle isShown with ⟨index, -, given⟩
      exact ⟨index, given⟩
    · rintro ⟨index, given⟩
      rcases each index (lt_length_of_paneAt given) with ⟨shownHandle, givenHere, shown⟩
      rw [given, Option.some.injEq] at givenHere
      rw [givenHere]
      exact shown

end Requests

/-! ## Sessions -/

/-- The log obeys the rules, and a placed deck shows its panes. -/
structure TendsPanes (deck : Deck μ σ) (placed : Prop) : Prop where
  once : ∀ tab, creations tab deck.link.calls ≤ 1
  wellAsked : WellAsked deck.link.calls
  shows : placed → deck.ShowsItsPanes

/-- If an action has a pane created for a tab, then the tab had none and is given none by the
host. -/
def CreatesMissing (before after : Deck μ σ) (action : Action) : Prop :=
  ∀ tab, creations tab after.link.calls ≠ creations tab before.link.calls →
    before.paneAt tab = none ∧ ∀ index handle, action ≠ .supplyPane index handle

section Sessions

variable [FontMetrics μ] [PaneHost σ] {capacity : Nat} {captions : List Caption} {metrics : μ}
  {host : σ} {settings : Settings} {start deck : Deck μ σ} {actions : List Action}

theorem Asks.createsMissing {before after : Deck μ σ} {action : Action} {answer : Answer}
    (asks : before.Asks after) (done : before.perform action = .ok (answer, after)) :
    before.CreatesMissing after action := by
  intro tab more
  refine ⟨((asks.creates.created tab).resolve_left more).1, ?_⟩
  rintro index handle rfl
  rcases accepted_eq_ok.mp done with ⟨outcome, supplied, -⟩
  exact more (creations_of_supplyPane supplied tab)

/-- Throughout a session the panes are attached, and all requests were permitted. -/
theorem throughout_asks
    (made : ofCaptions capacity captions metrics host settings = .ok start)
    (distinct : start.Throughout actions fun _ deck => deck.DistinctPanes) :
    start.Throughout actions fun _ deck => deck.Attached False ∧ start.Asks deck := by
  apply throughout_of_step
  · exact ⟨attached_ofCaptions made, Asks.refl start⟩
  · rintro earlier before action answer after within reached ⟨attached, asks⟩ performed
    have shorter : earlier <+: actions := (List.prefix_append earlier [action]).trans within
    have distinctBefore := distinct earlier shorter before reached
    have distinctAfter :=
      distinct _ within after (reaches_snoc.mpr ⟨before, answer, reached, performed⟩)
    refine ⟨attached.perform distinctBefore distinctAfter nofun performed, ?_⟩
    exact asks.trans (Asks.of_perform attached distinctAfter performed)

/-- As long as no two tabs have the same pane, a deck tends its panes throughout every session: it
has each created once and where there is none, moves and unmounts only what is shown, and shows the
active pane, or in flick mode all of them, from the first placement on. -/
theorem panes_tended
    (made : ofCaptions capacity captions metrics host settings = .ok start)
    (distinct : start.Throughout actions fun _ deck => deck.DistinctPanes) :
    (start.Throughout actions fun earlier deck => deck.TendsPanes (Placed earlier)) ∧
      ∀ earlier action before answer after, earlier ++ [action] <+: actions →
        start.Reaches earlier before → before.perform action = .ok (answer, after) →
          before.CreatesMissing after action := by
  have known := throughout_asks made distinct
  have coherent := coherent_ofCaptions made
  have empty : start.link.calls = [] ∧ start.laidOut = false := by
    rcases ofCaptions_eq_ok made with ⟨-, _, _, -, rfl⟩
    exact ⟨rfl, rfl⟩
  refine ⟨?_, ?_⟩
  · intro earlier within deck reached
    rcases known earlier within deck reached with ⟨attached, asks⟩
    refine ⟨fun tab => ?_, asks.wellAsked ?_, fun placed => ?_⟩
    · have fresh : creations tab start.link.calls = 0 := by
        rw [empty.1]
        rfl
      rcases asks.creates.created tab with same | ⟨-, -, more⟩ <;> omega
    · rw [empty.1]
      trivial
    · have laidOut := reached.laidOut placed
      exact attached.showsItsPanes (reached.coherent coherent) laidOut
        (reached.active coherent empty.2 laidOut)
  · intro earlier action before answer after within reached performed
    have shorter : earlier <+: actions := (List.prefix_append earlier [action]).trans within
    have attached := (known earlier shorter before reached).1
    have distinctAfter :=
      distinct _ within after (reaches_snoc.mpr ⟨before, answer, reached, performed⟩)
    exact (Asks.of_perform attached distinctAfter performed).createsMissing performed

end Sessions

/-- Each pane is created when it is first shown, and the second is replaced while it is shown. -/
theorem panes_tended_when_replaced :
    ∃ start : Deck FixedAdvance DemoPanes,
      ofCaptions 8 (twoImages 10) ⟨6, 7, 10⟩ {} {} = .ok start ∧
      (start.Throughout [.placeAt ⟨⟨0, 0⟩, ⟨300, 100⟩⟩, .select 1, .supplyPane 1 ⟨7⟩]
        fun _ deck => deck.DistinctPanes) ∧
      (start.Throughout [.placeAt ⟨⟨0, 0⟩, ⟨300, 100⟩⟩, .select 1, .supplyPane 1 ⟨7⟩]
        fun earlier deck => deck.TendsPanes (Placed earlier)) := by
  obtain ⟨start, placed, selected, replaced, _, _, _, made, first, second, third, distinctStart,
      distinctPlaced, distinctSelected, distinctReplaced⟩ :
      ∃ start placed selected replaced : Deck FixedAdvance DemoPanes, ∃ answer other last,
        ofCaptions 8 (twoImages 10) ⟨6, 7, 10⟩ {} {} = .ok start ∧
        start.perform (.placeAt ⟨⟨0, 0⟩, ⟨300, 100⟩⟩) = .ok (answer, placed) ∧
        placed.perform (.select 1) = .ok (other, selected) ∧
        selected.perform (.supplyPane 1 ⟨7⟩) = .ok (last, replaced) ∧
        start.DistinctPanes ∧ placed.DistinctPanes ∧ selected.DistinctPanes ∧
        replaced.DistinctPanes :=
    ⟨_, _, _, _, _, _, _, rfl, rfl, rfl, rfl, by decide, by decide, by decide, by decide⟩
  have distinct : start.Throughout [.placeAt ⟨⟨0, 0⟩, ⟨300, 100⟩⟩, .select 1, .supplyPane 1 ⟨7⟩]
      fun _ deck => deck.DistinctPanes := by
    refine (throughout_cons first).mpr ⟨distinctStart, ?_⟩
    refine (throughout_cons second).mpr ⟨distinctPlaced, ?_⟩
    exact (throughout_cons third).mpr ⟨distinctSelected, throughout_nil.mpr distinctReplaced⟩
  exact ⟨start, made, distinct, (panes_tended made distinct).1⟩

end Deck

end TabDeck
