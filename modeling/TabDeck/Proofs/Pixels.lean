import TabDeck.Picture.Canvas

/-!
# What pictures paint

A shape covers the points that lie in its runs, and a painted shape those of them that lie in its
clip. Painted shapes give the points that they cover their colour, the later ones over the earlier
ones, and leave all other points alone. A canvas is painted row by row and run by run, and comes out
the same (`Canvas.get?_draw`).
-/

namespace TabDeck

/-! ## Covered points -/

/-- The point lies in a run of its row. -/
def Shape.Covers (shape : Shape) (point : Point) : Prop :=
  ∃ run ∈ shape.runs point.y, run.first ≤ point.x ∧ point.x ≤ run.last

instance (shape : Shape) (point : Point) : Decidable (shape.Covers point) :=
  inferInstanceAs (Decidable (∃ run ∈ _, _))

/-- The shape covers the point, and its clip does not take the point away. -/
def Painted.Covers (painted : Painted) (point : Point) : Prop :=
  painted.shape.Covers point ∧ ∀ clip ∈ painted.clip, clip.Contains point

instance (painted : Painted) (point : Point) : Decidable (painted.Covers point) :=
  inferInstanceAs (Decidable (_ ∧ ∀ _ ∈ _, _))

namespace Picture

/-- Some shape of the picture covers the point. -/
def Covers (picture : Picture) (point : Point) : Prop :=
  ∃ painted ∈ picture, painted.Covers point

/-- All that the picture covers lies in a rectangle. -/
def Inside (picture : Picture) (rect : Rect) : Prop :=
  ∀ point, Covers picture point → rect.Contains point

end Picture

/-! ## Painting covered points -/

/-- A pixel, if it is there, in another colour. -/
def recolour (colour : Colour) (pixel : Option Colour) : Option Colour := pixel.map fun _ => colour

@[simp] theorem recolour_recolour (colour earlier : Colour) (pixel : Option Colour) :
    recolour colour (recolour earlier pixel) = recolour colour pixel := by
  cases pixel <;> rfl

/-- What a display shows: the colours of the points that it has. -/
abbrev Screen := Point → Option Colour

namespace Screen

/-- Covered points take the colour of a shape. -/
def paint (screen : Screen) (painted : Painted) : Screen := fun point =>
  if painted.Covers point then recolour painted.colour (screen point) else screen point

/-- The shapes of a picture are painted one after the other. -/
def draw (screen : Screen) (picture : Picture) : Screen := picture.foldl paint screen

theorem draw_cons (screen : Screen) (painted : Painted) (rest : Picture) :
    screen.draw (painted :: rest) = (screen.paint painted).draw rest :=
  List.foldl_cons ..

/-- A point that nothing covers keeps its colour. -/
theorem draw_of_not_covers {picture : Picture} {point : Point}
    (clear : ¬ Picture.Covers picture point) (screen : Screen) :
    screen.draw picture point = screen point := by
  induction picture generalizing screen with
  | nil => rfl
  | cons painted rest ih =>
    have uncovered : ¬ painted.Covers point := fun covers =>
      clear ⟨painted, List.mem_cons_self, covers⟩
    have later : ¬ Picture.Covers rest point := by
      rintro ⟨other, isLater, covers⟩
      exact clear ⟨other, List.mem_cons_of_mem painted isLater, covers⟩
    rw [draw_cons, ih later, paint, if_neg uncovered]

/-- Whatever a screen showed at a covered point, it takes one colour there. -/
theorem draw_of_covers {picture : Picture} {point : Point}
    (covers : Picture.Covers picture point) :
    ∃ colour, ∀ screen : Screen, screen.draw picture point = recolour colour (screen point) := by
  induction picture with
  | nil =>
    rcases covers with ⟨painted, member, -⟩
    cases member
  | cons painted rest ih =>
    by_cases later : Picture.Covers rest point
    · rcases ih later with ⟨colour, drawn⟩
      refine ⟨colour, fun screen => ?_⟩
      rw [draw_cons, drawn, paint]
      split
      · exact recolour_recolour ..
      · rfl
    · refine ⟨painted.colour, fun screen => ?_⟩
      rcases covers with ⟨other, member, covers⟩
      rcases List.mem_cons.mp member with rfl | isLater
      · rw [draw_cons, draw_of_not_covers later, paint, if_pos covers]
      · exact absurd ⟨other, isLater, covers⟩ later

/-- Nothing outside a rectangle changes on any screen, be it white or black before, exactly if all
that is painted lies inside. -/
theorem draw_inside_iff {picture : Picture} {rect : Rect} :
    (∀ (screen : Screen) (point : Point), ¬ rect.Contains point →
        screen.draw picture point = screen point) ↔
      Picture.Inside picture rect := by
  constructor
  · intro keeps point covers
    refine Decidable.byContradiction fun outside => ?_
    rcases draw_of_covers covers with ⟨colour, drawn⟩
    have white := keeps (fun _ => some .white) point outside
    have black := keeps (fun _ => some .black) point outside
    rw [drawn] at white black
    simp only [recolour, Option.map_some, Option.some.injEq] at white black
    rw [white] at black
    exact absurd black (by decide)
  · intro inside screen point outside
    exact draw_of_not_covers (fun covers => outside (inside point covers)) screen

end Screen

/-! ## Canvases -/

namespace Canvas

variable {colour : Colour} {index : Nat}

theorem getElem?_fill (first count : Nat) (pixels : Array Colour) :
    (fill colour first count pixels)[index]? =
      if first ≤ index ∧ index < first + count then recolour colour pixels[index]?
      else pixels[index]? := by
  induction count generalizing first pixels with
  | zero =>
    rw [if_neg (by omega)]
    rfl
  | succ count ih =>
    simp only [fill, ih, Array.getElem?_setIfInBounds]
    by_cases here : first = index
    · subst here
      have behind : ¬ (first + 1 ≤ first ∧ first < first + 1 + count) := by omega
      have isFirst : first ≤ first ∧ first < first + (count + 1) := by omega
      rw [if_neg behind, if_pos isFirst, if_pos rfl]
      by_cases inArray : first < pixels.size
      · simp [recolour, inArray]
      · simp [recolour, Nat.le_of_not_lt inArray]
    · have same : first + 1 ≤ index ∧ index < first + 1 + count ↔
          first ≤ index ∧ index < first + (count + 1) := by omega
      simp only [same, if_neg here]

/-- Steps that each recolour a pixel or leave it alone recolour it if one of them does. -/
theorem getElem?_foldl {ι : Type} {step : Array Colour → ι → Array Colour} {hits : ι → Prop}
    [DecidablePred hits] (items : List ι)
    (each : ∀ item pixels, (step pixels item)[index]? =
      if hits item then recolour colour pixels[index]? else pixels[index]?)
    (pixels : Array Colour) :
    (items.foldl step pixels)[index]? =
      if ∃ item ∈ items, hits item then recolour colour pixels[index]? else pixels[index]? := by
  induction items generalizing pixels with
  | nil => simp
  | cons item rest ih =>
    rw [List.foldl_cons, ih, each]
    by_cases here : hits item
    · simp [here]
    · simp [here]

section Rows

variable {width row column : Nat} (inWidth : column < width)

include inWidth

/-- In an array of rows a run of pixels of one row does not reach into another. -/
theorem inRun_iff {own first stop : Nat} (fits : stop ≤ width) :
    own * width + first ≤ row * width + column ∧
        row * width + column < own * width + first + (stop - first) ↔
      own = row ∧ first ≤ column ∧ column < stop := by
  rcases Nat.lt_trichotomy own row with before | same | behind
  · have rows := Nat.mul_le_mul_right width (Nat.succ_le_of_lt before)
    rw [Nat.succ_mul] at rows
    omega
  · subst same
    omega
  · have rows := Nat.mul_le_mul_right width (Nat.succ_le_of_lt behind)
    rw [Nat.succ_mul] at rows
    omega

theorem getElem?_paintRun {columns : Nat × Nat} (fits : columns.2 ≤ width) {own : Nat}
    (run : PixelRun) (pixels : Array Colour) :
    (paintRun width columns own colour pixels run)[row * width + column]? =
      if own = row ∧ (columns.1 ≤ column ∧ column < columns.2) ∧
        run.first ≤ column ∧ column ≤ run.last
      then recolour colour pixels[row * width + column]?
      else pixels[row * width + column]? := by
  have stops : min columns.2 (run.last + 1).toNat ≤ width := by omega
  simp only [paintRun, getElem?_fill, inRun_iff inWidth stops]
  have same : own = row ∧ max columns.1 run.first.toNat ≤ column ∧
      column < min columns.2 (run.last + 1).toNat ↔
        own = row ∧ (columns.1 ≤ column ∧ column < columns.2) ∧
          run.first ≤ column ∧ column ≤ run.last := by omega
  simp only [same]

/-- The open columns of a row are those in the clip. -/
theorem inOpenColumns_iff (clip : Option Rect) :
    (openColumns width clip row).1 ≤ column ∧ column < (openColumns width clip row).2 ↔
      ∀ rect ∈ clip, rect.Contains ⟨column, row⟩ := by
  cases clip with
  | none => simp [openColumns, inWidth]
  | some rect =>
    simp only [openColumns, Option.mem_some_iff, forall_eq', Rect.Contains]
    split
    · simp only []
      omega
    · simp only []
      omega

theorem getElem?_paintRow (painted : Painted) {own : Nat} (pixels : Array Colour) :
    (paintRow width painted pixels own)[row * width + column]? =
      if own = row ∧ painted.Covers ⟨column, row⟩
      then recolour painted.colour pixels[row * width + column]?
      else pixels[row * width + column]? := by
  have fits : (openColumns width painted.clip own).2 ≤ width := by
    simp only [openColumns]
    split
    · exact Nat.le_refl _
    · split
      · exact Nat.min_le_left _ _
      · exact Nat.zero_le _
  have each : ((painted.shape.runs own).foldl
      (paintRun width (openColumns width painted.clip own) own painted.colour)
      pixels)[row * width + column]? =
        if ∃ run ∈ painted.shape.runs own, own = row ∧
          ((openColumns width painted.clip own).1 ≤ column ∧
            column < (openColumns width painted.clip own).2) ∧
          run.first ≤ column ∧ column ≤ run.last
        then recolour painted.colour pixels[row * width + column]?
        else pixels[row * width + column]? :=
    getElem?_foldl _ (fun run pixels => getElem?_paintRun inWidth fits run pixels) pixels
  have covers : (own = row ∧ painted.Covers ⟨column, row⟩) ↔
      (openColumns width painted.clip own).1 < (openColumns width painted.clip own).2 ∧
        ∃ run ∈ painted.shape.runs own, own = row ∧
          ((openColumns width painted.clip own).1 ≤ column ∧
            column < (openColumns width painted.clip own).2) ∧
          run.first ≤ column ∧ column ≤ run.last := by
    constructor
    · rintro ⟨rfl, ⟨run, isRun, inRun⟩, inClip⟩
      have isOpen := (inOpenColumns_iff inWidth painted.clip).mpr inClip
      exact ⟨by omega, run, isRun, rfl, isOpen, inRun⟩
    · rintro ⟨-, run, isRun, rfl, isOpen, inRun⟩
      exact ⟨rfl, ⟨run, isRun, inRun⟩, (inOpenColumns_iff inWidth painted.clip).mp isOpen⟩
  simp only [covers, paintRow]
  split
  · next nonempty => simp only [nonempty, true_and, each]
  · next empty => simp only [empty, false_and, if_false]

theorem getElem?_paintRows {height : Nat} (inHeight : row < height) (painted : Painted)
    (pixels : Array Colour) :
    ((List.range height).foldl (paintRow width painted) pixels)[row * width + column]? =
      if painted.Covers ⟨column, row⟩
      then recolour painted.colour pixels[row * width + column]?
      else pixels[row * width + column]? := by
  have each : ∀ (own : Nat) (pixels : Array Colour),
      (paintRow width painted pixels own)[row * width + column]? =
        if own = row ∧ painted.Covers ⟨column, row⟩
        then recolour painted.colour pixels[row * width + column]?
        else pixels[row * width + column]? :=
    fun own pixels => getElem?_paintRow inWidth painted pixels
  have covers : (∃ own ∈ List.range height, own = row ∧ painted.Covers ⟨column, row⟩) ↔
      painted.Covers ⟨column, row⟩ := by
    constructor
    · rintro ⟨_, -, -, covers⟩
      exact covers
    · intro covers
      exact ⟨row, List.mem_range.mpr inHeight, rfl, covers⟩
  rw [getElem?_foldl _ each]
  simp only [covers]

end Rows

/-- A canvas shows what a screen shows that is painted the same. -/
theorem get?_paint (canvas : Canvas) (painted : Painted) :
    (canvas.paint painted).get? = Screen.paint canvas.get? painted := by
  funext point
  by_cases inCanvas : 0 ≤ point.x ∧ point.x < canvas.width ∧ 0 ≤ point.y ∧ point.y < canvas.height
  · have inWidth : point.x.toNat < canvas.width := by omega
    have inHeight : point.y.toNat < canvas.height := by omega
    have painting := getElem?_paintRows inWidth inHeight painted canvas.pixels
    rw [Int.toNat_of_nonneg inCanvas.1, Int.toNat_of_nonneg inCanvas.2.2.1] at painting
    have before : canvas.get? point =
        canvas.pixels[point.y.toNat * canvas.width + point.x.toNat]? := if_pos inCanvas
    have after : (canvas.paint painted).get? point =
        ((List.range canvas.height).foldl (paintRow canvas.width painted)
          canvas.pixels)[point.y.toNat * canvas.width + point.x.toNat]? := if_pos inCanvas
    rw [after, painting, Screen.paint, before]
  · have before : canvas.get? point = none := if_neg inCanvas
    have after : (canvas.paint painted).get? point = none := if_neg inCanvas
    rw [after, Screen.paint, before]
    split <;> rfl

/-- Painting a picture on a canvas is painting it on what the canvas shows. -/
theorem get?_draw (canvas : Canvas) (picture : Picture) :
    (canvas.draw picture).get? = Screen.draw canvas.get? picture := by
  induction picture generalizing canvas with
  | nil => rfl
  | cons painted rest ih =>
    rw [Screen.draw_cons, ← get?_paint, ← ih]
    rfl

end Canvas

end TabDeck
