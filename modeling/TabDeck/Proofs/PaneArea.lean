import TabDeck.Proofs.StripGeometry

/-!
# Room for the panes

The area of the panes leaves out the strip, so that it depends on how high the strip is. A placement
and new captions compute it anew. Icons do not, although a classic strip of texts becomes higher
with the first ones, and then the strip covers the upper or lower rows of the panes until the next
placement. Nothing else comes between the area and the strip.
-/

namespace TabDeck

theorem Strip.height_of_measure {μ : Type} [FontMetrics μ] {capacity : Nat}
    {captions : List Caption} {metrics : μ} {policy : StripPolicy} {strip : Strip}
    (measured : measure capacity captions metrics policy = .ok strip) :
    strip.height = policy.stripHeight (FontMetrics.lineHeight metrics .plain) captions := by
  simp only [measure, bind_eq_ok, pure_eq_ok] at measured
  rcases measured with ⟨_, _, rfl⟩
  rfl

/-- Icons matter to the height only beside the texts of a classic strip. -/
theorem StripPolicy.stripHeight_of_icons (policy : StripPolicy) (lineHeight : Nat)
    (captions : List Caption) :
    ({ policy with hasIcons := true } : StripPolicy).stripHeight lineHeight captions =
      policy.stripHeight lineHeight captions +
        if textStrip captions ∧ policy.style = .classic ∧ policy.hasIcons = false
        then policy.extraHeight else 0 := by
  simp only [stripHeight]
  cases textStrip captions <;> cases policy.style <;> cases policy.hasIcons <;> simp

namespace Deck

variable {μ σ : Type}

/-- The area of the panes is the one that the strip leaves. -/
def Fitted (deck : Deck μ σ) : Prop :=
  deck.paneArea = areaOfPanes deck.settings deck.strip.height deck.bounds.size

/-- The panes have the room that the strip, the frame and the insets leave. In a deck whose sides
are signed words they neither reach past it nor cover the strip. -/
structure PanesFitted (deck : Deck μ σ) : Prop where
  area : deck.paneRect =
    (areaOfPanes deck.settings deck.strip.height deck.bounds.size).shiftBy deck.bounds.origin
  clear : deck.bounds.size.width ≤ Word.maxSigned → deck.bounds.size.height ≤ Word.maxSigned →
    ∀ point, deck.paneRect.Contains point →
      deck.bounds.Contains point ∧ ¬ deck.stripBand.Contains point

/-- Icons are shown for the first time, and the strip that they make higher needs room that the
panes have. -/
def RaisesStrip (deck : Deck μ σ) (action : Action) : Prop :=
  ∃ icons, action = .showIcons icons ∧ icons.length = deck.tabs.length ∧ deck.laidOut = true ∧
    textStrip (deck.tabs.map Tab.caption) = true ∧ deck.settings.style = .classic ∧
    deck.hasIcons = false ∧
    areaOfPanes deck.settings (deck.strip.height + deck.settings.extraHeight) deck.bounds.size ≠
      areaOfPanes deck.settings deck.strip.height deck.bounds.size

/-! ## The area excludes the strip -/

/-- An area with a pixel leaves room on all sides, so that its corner fits in signed words. -/
theorem origin_areaOfPanes {settings : Settings} {stripHeight : Nat} {size : Size}
    (wide : size.width ≤ Word.maxSigned) (high : size.height ≤ Word.maxSigned)
    (columns : settings.insets.left + settings.frameGap ≤ size.width)
    (rows : stripHeight + settings.frameGap + settings.insets.top ≤ size.height) :
    (areaOfPanes settings stripHeight size).origin =
      ⟨(settings.insets.left + settings.frameGap : Nat), match settings.edge with
        | .top => (stripHeight + settings.insets.top : Nat)
        | .bottom => (settings.frameGap + settings.insets.top : Nat)⟩ := by
  have left : Word.signed (settings.insets.left + settings.frameGap : Nat) =
      (settings.insets.left + settings.frameGap : Nat) := Word.signed_ofNat (by omega)
  have top : Word.signed (stripHeight + settings.insets.top : Nat) =
      (stripHeight + settings.insets.top : Nat) := Word.signed_ofNat (by omega)
  have bottom : Word.signed (settings.frameGap + settings.insets.top : Nat) =
      (settings.frameGap + settings.insets.top : Nat) := Word.signed_ofNat (by omega)
  rw [areaOfPanes, left]
  cases settings.edge with
  | top => exact congrArg (Point.mk _) top
  | bottom => exact congrArg (Point.mk _) bottom

/-- A pixel that the panes have lies in the deck and beside the strip. An area with a pixel has room
on all sides, so that no difference in it was cut off at zero. -/
theorem areaOfPanes_clear {settings : Settings} {stripHeight : Nat} {size : Size} {point : Point}
    (wide : size.width ≤ Word.maxSigned) (high : size.height ≤ Word.maxSigned)
    (inside : (areaOfPanes settings stripHeight size).Contains point) :
    (⟨⟨0, 0⟩, size⟩ : Rect).Contains point ∧
      ¬ (⟨⟨0, stripTop settings.edge size.height stripHeight⟩, ⟨size.width, stripHeight⟩⟩ :
        Rect).Contains point := by
  rcases inside with ⟨left, right, top, bottom⟩
  have columns : settings.insets.horizontal + 2 * settings.frameGap < size.width := by
    have room := Int.lt_of_le_of_lt left right
    simp only [areaOfPanes] at room
    omega
  have rows : settings.insets.vertical + 2 * settings.frameGap + stripHeight < size.height := by
    have room := Int.lt_of_le_of_lt top bottom
    simp only [areaOfPanes] at room
    omega
  simp only [Insets.horizontal, Insets.vertical] at columns rows
  rw [origin_areaOfPanes wide high (by omega) (by omega)] at left right top bottom
  simp only [areaOfPanes, Insets.horizontal, Insets.vertical] at left right top bottom
  simp only [Rect.Contains, stripTop]
  cases edge : settings.edge with
  | top =>
    simp only [edge] at top bottom ⊢
    omega
  | bottom =>
    simp only [edge] at top bottom ⊢
    rw [Word.signed_ofNat high, Word.signed_ofNat (by omega)]
    omega

section Area

variable {before after deck : Deck μ σ}

theorem fitted_iff : deck.Fitted ↔
    deck.paneRect =
      (areaOfPanes deck.settings deck.strip.height deck.bounds.size).shiftBy
        deck.bounds.origin := by
  have moved : deck.paneRect = deck.paneArea.shiftBy deck.bounds.origin := by
    rw [paneRect, Rect.shiftBy, Point.add_comm]
  rw [moved, Fitted]
  constructor
  · intro fitted
    rw [fitted]
  · exact Rect.shiftBy_cancel

theorem Fitted.clear (fitted : deck.Fitted)
    (wide : deck.bounds.size.width ≤ Word.maxSigned)
    (high : deck.bounds.size.height ≤ Word.maxSigned) {point : Point}
    (inside : deck.paneRect.Contains point) :
    deck.bounds.Contains point ∧ ¬ deck.stripBand.Contains point := by
  rw [fitted_iff.mp fitted, Rect.contains_shiftBy] at inside
  have beside := areaOfPanes_clear wide high inside
  simp only [Rect.Contains, stripBand, stripRow, Point.sub_x, Point.sub_y, Point.add_x,
    Point.add_y] at beside ⊢
  omega

theorem RaisesStrip.laidOut {action : Action} (raises : deck.RaisesStrip action) :
    deck.laidOut = true := by
  rcases raises with ⟨_, -, -, laidOut, -⟩
  exact laidOut

theorem Fitted.panesFitted (fitted : deck.Fitted) : deck.PanesFitted :=
  ⟨fitted_iff.mp fitted, fun wide high _ => fitted.clear wide high⟩

theorem Fitted.same (fitted : before.Fitted) (same : before.SameStrip after) : after.Fitted := by
  have settings : after.settings = before.settings := congrArg StripInputs.settings same.inputs
  have bounds : after.bounds = before.bounds := congrArg StripInputs.bounds same.inputs
  have strip : after.strip = before.strip := congrArg StripGeometry.strip same.geometry
  rw [Fitted, same.paneArea, settings, bounds, strip]
  exact fitted

end Area

/-! ## Which actions keep it so -/

section Steps

variable [PaneHost σ] {before after deck : Deck μ σ} {outcome : Outcome}

theorem Fitted.switched (fitted : before.Fitted) (switched : before.Switched after) :
    after.Fitted := by
  rcases switched with rfl | ⟨index, outcome, -, -, activated⟩
  · exact fitted
  · rcases activate_eq_ok activated with ⟨row, gesture, mid, ⟨_, _, rfl, -⟩, rfl, -, -⟩
    exact fitted

theorem Fitted.reselects (fitted : before.Fitted) (reselects : before.Reselects after) :
    after.Fitted := by
  rcases reselects with ⟨mid, last, same, switched, again⟩
  exact ((fitted.same same).switched switched).same again

theorem Reselects.laidOut (reselects : before.Reselects after) :
    after.laidOut = before.laidOut := by
  rcases reselects with ⟨mid, last, same, switched, again⟩
  rw [again.laidOut, (Keeps.of_switched switched).laidOut, same.laidOut]

variable [FontMetrics μ]

theorem fitted_of_placeAt {bounds : Rect} (done : deck.placeAt bounds = .ok (outcome, after)) :
    after.Fitted := by
  rcases placeAt_eq_ok done with ⟨measured, area, row, stripWidth, shown, last, -, ⟨-, areaOf⟩, -,
    showed, stays, selects, rfl⟩
  have displayed : shown.Fitted := by
    rcases served_of_showPanes showed with ⟨aligned, ⟨_, _, rfl, -⟩, -, -⟩
    exact areaOf
  show last.Fitted
  exact displayed.switched (switched_of_placement stays selects)

omit [PaneHost σ] in
theorem fitted_of_relabel {captions : List Caption}
    (done : deck.relabel captions = .ok (outcome, after)) : after.Fitted := by
  rcases relabel_eq_ok done with ⟨mid, area, -, ⟨areaOf, -⟩, rfl⟩
  exact areaOf

omit [PaneHost σ] in
theorem inputs_remeasure (deck : Deck μ σ) : deck.remeasure.inputs = deck.inputs := by
  simp only [remeasure]
  split
  · rfl
  · next strip measured =>
    have length : strip.tabs.length = deck.tabs.length := by
      rw [Strip.length_tabs_of_measure measured, List.length_map]
    simp only [inputs, StripInputs.mk.injEq, true_and, and_true]
    exact map_zipWith length fun _ _ => rfl

omit [PaneHost σ] in
theorem inputs_of_showIcons {icons : List Image}
    (done : deck.showIcons icons = .ok (outcome, after)) :
    after.inputs = { deck.inputs with hasIcons := true } := by
  rcases showIcons_eq_ok done with ⟨-, tabs, labelled, rfl⟩
  have captions : tabs.map Tab.caption = deck.tabs.map Tab.caption := labelled fun _ _ => rfl
  calc ({ deck with tabs, hasIcons := true } : Deck μ σ).remeasure.arrange.inputs
    _ = ({ deck with tabs, hasIcons := true } : Deck μ σ).remeasure.inputs := rfl
    _ = ({ deck with tabs, hasIcons := true } : Deck μ σ).inputs := inputs_remeasure _
    _ = { deck.inputs with hasIcons := true } := by simp only [inputs, captions]

omit [PaneHost σ] in
/-- The first icons make a classic strip of texts higher. -/
theorem height_of_showIcons {icons : List Image} (upToDate : deck.UpToDate)
    (done : deck.showIcons icons = .ok (outcome, after)) :
    after.strip.height = deck.strip.height +
      if textStrip (deck.tabs.map Tab.caption) ∧ deck.settings.style = .classic ∧
        deck.hasIcons = false then deck.settings.extraHeight else 0 := by
  have height := Strip.height_of_measure upToDate.measured.measured
  have raised := Strip.height_of_measure (upToDate.showIcons done).measured.measured
  rw [inputs_of_showIcons done] at raised
  calc after.strip.height
    _ = _ := raised
    _ = _ := StripPolicy.stripHeight_of_icons deck.inputs.policy _ _
    _ = _ := by rw [← height]; rfl

omit [PaneHost σ] in
theorem fitted_of_showIcons_iff {icons : List Image}
    (done : deck.showIcons icons = .ok (outcome, after)) :
    after.Fitted ↔
      deck.paneArea = areaOfPanes deck.settings after.strip.height deck.bounds.size := by
  rcases restyled_of_showIcons done with ⟨_, _, _, _, _, _, _, _, rfl, -⟩
  rfl

omit [PaneHost σ] in
theorem fitted_of_showIcons {icons : List Image} (upToDate : deck.UpToDate) (fitted : deck.Fitted)
    (laidOut : deck.laidOut = true) (harmless : ¬ deck.RaisesStrip (.showIcons icons))
    (done : deck.showIcons icons = .ok (outcome, after)) : after.Fitted := by
  rw [fitted_of_showIcons_iff done, fitted, height_of_showIcons upToDate done]
  split
  · next raised =>
    rcases raised with ⟨texts, classic, plain⟩
    by_contra other
    have lengths := (showIcons_eq_ok done).1
    exact harmless ⟨icons, rfl, lengths, laidOut, texts, classic, plain, Ne.symm other⟩
  · rw [Nat.add_zero]

/-- What the area and the strip agree on is kept by every action that does not raise the strip. Only
icons can raise it while the area is not computed anew. -/
theorem Fitted.perform {action : Action} {answer : Answer} (upToDate : before.UpToDate)
    (fitted : before.laidOut = true → before.Fitted) (harmless : ¬ before.RaisesStrip action)
    (done : before.perform action = .ok (answer, after)) (laidOut : after.laidOut = true) :
    after.Fitted := by
  cases stripStep_of_perform done with
  | reselects reselects => exact (fitted (reselects.laidOut ▸ laidOut)).reselects reselects
  | enables enabled mid _ kept same =>
    rw [same] at laidOut ⊢
    have known : before.Fitted := fitted (kept.laidOut ▸ laidOut)
    have toggled : ({ before with enabled } : Deck μ σ).Fitted := known
    show mid.Fitted
    exact toggled.same kept
  | places bounds outcome _ placed => exact fitted_of_placeAt placed
  | showsIcons icons outcome same shown =>
    rw [same] at harmless
    have placed : before.laidOut = true := by
      rw [← laidOut, (Keeps.of_restyled (restyled_of_showIcons shown)).laidOut]
    exact fitted_of_showIcons upToDate (fitted placed) placed harmless shown
  | relabels captions outcome _ relabelled => exact fitted_of_relabel relabelled

/-- An action that raises the strip leaves a placed deck with an area that is not the one that the
strip leaves. -/
theorem RaisesStrip.covers {action : Action} (raises : deck.RaisesStrip action)
    (upToDate : deck.UpToDate) (fitted : deck.Fitted) :
    ∃ answer after, deck.perform action = .ok (answer, after) ∧ ¬ after.Fitted := by
  rcases raises with ⟨icons, rfl, lengths, laidOut, texts, classic, plain, other⟩
  obtain ⟨outcome, after, done⟩ : ∃ outcome after, deck.showIcons icons = .ok (outcome, after) := by
    simp only [showIcons, lengths, if_true]
    exact ⟨_, _, rfl⟩
  refine ⟨_, after, acceptedOr_eq_ok.mpr (Or.inl ⟨outcome, done, rfl⟩), ?_⟩
  rw [fitted_of_showIcons_iff done, fitted, height_of_showIcons upToDate done,
    if_pos ⟨texts, classic, plain⟩]
  exact Ne.symm other

end Steps

section Sessions

variable [FontMetrics μ] [PaneHost σ] {capacity : Nat} {captions : List Caption} {metrics : μ}
  {host : σ} {settings : Settings} {start : Deck μ σ}

/-- From the first placement on the panes fit beside the strip, exactly if no action raises the
strip of a placed deck by showing it its first icons. -/
theorem panes_fitted_iff
    (made : ofCaptions capacity captions metrics host settings = .ok start)
    (actions : List Action) :
    (start.Throughout actions fun earlier deck => Placed earlier → deck.PanesFitted) ↔
      start.Avoids actions RaisesStrip := by
  have unplaced : start.laidOut = false := by
    rcases ofCaptions_eq_ok made with ⟨-, _, _, -, rfl⟩
    rfl
  apply throughout_iff_avoids fun _ deck => deck.laidOut = true → deck.Fitted
  · intro laidOut
    rw [unplaced] at laidOut
    cases laidOut
  · intro earlier deck _ reached fitted placed
    exact (fitted (reached.laidOut placed)).panesFitted
  · intro earlier before action answer after _ reached fitted harmless performed
    exact Fitted.perform (reached.upToDate made) fitted harmless performed
  · intro earlier before action _ reached fitted raises
    have laidOut : before.laidOut = true := raises.laidOut
    rcases raises.covers (reached.upToDate made) (fitted laidOut) with
      ⟨answer, after, performed, unfitted⟩
    refine ⟨answer, after, performed, fun holds => unfitted ?_⟩
    rcases reached.placed unplaced laidOut with ⟨bounds, member⟩
    exact fitted_iff.mpr (holds ⟨bounds, List.mem_append_left _ member⟩).area

end Sessions

/-! ## Icons before and after the placement -/

/-- Two short texts. -/
def textPair : List Caption :=
  [.text ⟨"One", by decide⟩, .text ⟨"Two", by decide⟩]

/-- Settings that reserve ten rows for icons. -/
def iconSettings : Settings := { extraHeight := 10 }

/-- An icon for each of two texts. -/
def iconPair : List Image := [⟨1, ⟨8, 8⟩⟩, ⟨2, ⟨8, 8⟩⟩]

/-- A deck that shows its icons before it is placed leaves room for them. -/
theorem panes_fitted_with_icons_first :
    ∃ start : Deck FixedAdvance DemoPanes,
      ofCaptions 8 textPair ⟨6, 7, 10⟩ {} iconSettings = .ok start ∧
      start.Throughout [.showIcons iconPair, .placeAt ⟨⟨0, 0⟩, ⟨300, 100⟩⟩]
        fun earlier deck => Placed earlier → deck.PanesFitted := by
  obtain ⟨start, shown, placed, answer, placedAnswer, made, first, second, loose⟩ :
      ∃ start shown placed : Deck FixedAdvance DemoPanes, ∃ answer placedAnswer,
        ofCaptions 8 textPair ⟨6, 7, 10⟩ {} iconSettings = .ok start ∧
        start.perform (.showIcons iconPair) = .ok (answer, shown) ∧
        shown.perform (.placeAt ⟨⟨0, 0⟩, ⟨300, 100⟩⟩) = .ok (placedAnswer, placed) ∧
        start.laidOut = false :=
    ⟨_, _, _, _, _, rfl, rfl, rfl, rfl⟩
  refine ⟨start, made, (panes_fitted_iff made _).mpr ?_⟩
  refine (avoids_cons first).mpr ⟨?_, (avoids_cons second).mpr ⟨?_, avoids_nil⟩⟩
  · intro raises
    rw [raises.laidOut] at loose
    cases loose
  · rintro ⟨_, impossible, -⟩
    cases impossible

/-- A placed deck that shows its icons covers the upper rows of its panes. -/
theorem strip_covers_panes :
    ∃ start : Deck FixedAdvance DemoPanes,
      ofCaptions 8 textPair ⟨6, 7, 10⟩ {} iconSettings = .ok start ∧
      ¬ start.Throughout [.placeAt ⟨⟨0, 0⟩, ⟨300, 100⟩⟩, .showIcons iconPair]
        fun earlier deck => Placed earlier → deck.PanesFitted := by
  obtain ⟨start, placed, shown, answer, shownAnswer, made, first, second, size, panes, strip⟩ :
      ∃ start placed shown : Deck FixedAdvance DemoPanes, ∃ answer shownAnswer,
        ofCaptions 8 textPair ⟨6, 7, 10⟩ {} iconSettings = .ok start ∧
        start.perform (.placeAt ⟨⟨0, 0⟩, ⟨300, 100⟩⟩) = .ok (answer, placed) ∧
        placed.perform (.showIcons iconPair) = .ok (shownAnswer, shown) ∧
        shown.bounds.size = ⟨300, 100⟩ ∧ shown.paneRect = ⟨⟨1, 14⟩, ⟨298, 84⟩⟩ ∧
        shown.stripBand = ⟨⟨0, 0⟩, ⟨300, 24⟩⟩ :=
    ⟨_, _, _, _, _, rfl, rfl, rfl, by decide, by decide, by decide⟩
  refine ⟨start, made, fun throughout => ?_⟩
  have later := ((throughout_cons first).mp throughout).2
  have last := throughout_nil.mp ((throughout_cons second).mp later).2
  have fitted := last ⟨_, List.mem_cons_self⟩
  have beside := fitted.clear (by rw [size]; decide) (by rw [size]; decide) ⟨10, 20⟩
  rw [panes, strip] at beside
  exact (beside (by decide)).2 (by decide)

end Deck

end TabDeck
