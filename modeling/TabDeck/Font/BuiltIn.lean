import TabDeck.Font

/-!
# The built-in fonts

Bitmaps of the printable ASCII characters in a plain font of 6 by 10 pixels and in a bold font of
7 by 13 pixels. A bitmap is one number, a byte to a row, the top row highest; within a byte the
leftmost pixel is the highest of the font's bits. Every other character shows the question mark.
-/

namespace TabDeck

namespace MonoFont

/-- The bitmaps of the plain built-in font, from the space on. -/
def regularBitmaps : Array Nat :=
  #[
    0x00000000000000000000, 0x00080808080800080000, 0x00141414000000000000, 0x0014143e143e14140000,
    0x00081c281c0a1c080000, 0x00122a1408142a240000, 0x00102828102a241a0000, 0x00080808000000000000,
    0x00040810101008040000, 0x00100804040408100000, 0x000022143e1422000000, 0x000008083e0808000000,
    0x0000000000000c081000, 0x000000003e0000000000, 0x000000000000081c0800, 0x00020204081020200000,
    0x00081422222214080000, 0x000818280808083e0000, 0x001c22020c10203e0000, 0x003e02040c02221c0000,
    0x00040c14243e04040000, 0x003e202c3202221c0000, 0x000c10202c32221c0000, 0x003e0204040810100000,
    0x001c22221c22221c0000, 0x001c22261a0204180000, 0x0000081c0800081c0800, 0x0000081c08000c081000,
    0x00020408100804020000, 0x0000003e003e00000000, 0x00100804020408100000, 0x001c2204080800080000,
    0x001c22262a2c201c0000, 0x00081422223e22220000, 0x003c12121c12123c0000, 0x001c22202020221c0000,
    0x003c12121212123c0000, 0x003e20203c20203e0000, 0x003e20203c2020200000, 0x001c22202026221c0000,
    0x002222223e2222220000, 0x001c08080808081c0000, 0x000e0404040424180000, 0x00222428302824220000,
    0x002020202020203e0000, 0x002222362a2222220000, 0x002222322a2622220000, 0x001c22222222221c0000,
    0x003c22223c2020200000, 0x001c222222222a1c0200, 0x003c22223c2824220000, 0x001c22201c02221c0000,
    0x003e0808080808080000, 0x002222222222221c0000, 0x00222222141414080000, 0x002222222a2a36220000,
    0x00222214081422220000, 0x00222214080808080000, 0x003e02040810203e0000, 0x001c10101010101c0000,
    0x00202010080402020000, 0x001c04040404041c0000, 0x00081422000000000000, 0x00000000000000003e00,
    0x08040000000000000000, 0x0000001c021e221e0000, 0x0020202c3222322c0000, 0x0000001c2220221c0000,
    0x0002021a2622261a0000, 0x0000001c223e201c0000, 0x000c12103c1010100000, 0x0000001e22221e02221c,
    0x0020202c322222220000, 0x000800180808081c0000, 0x0002000602020212120c, 0x00202022243824220000,
    0x001808080808081c0000, 0x000000342a2a2a220000, 0x0000002c322222220000, 0x0000001c2222221c0000,
    0x0000002c3222322c2020, 0x0000001a2622261a0202, 0x0000002c322020200000, 0x0000001c201c023c0000,
    0x0010103c1010120c0000, 0x000000222222261a0000, 0x00000022221414080000, 0x00000022222a2a140000,
    0x00000022140814220000, 0x0000002222261a02221c, 0x0000003e0408103e0000, 0x00060804180408060000,
    0x00080808080808080000, 0x00180408060804180000, 0x00122a24000000000000]

/-- The bitmaps of the bold built-in font, from the space on. -/
def boldBitmaps : Array Nat :=
  #[
    0x00000000000000000000000000, 0x00001818181818180018180000, 0x00003636360000000000000000,
    0x000014143e3e143e3e14140000, 0x0000183c5a583c1a5a3c180000, 0x00007256740c18302e6a4e0000,
    0x0000386c6c6c386a6e6c3a0000, 0x00001818181800000000000000, 0x00000c181830303018180c0000,
    0x00003018180c0c0c1818300000, 0x0000000024187e7e1824000000, 0x0000000018187e7e1818000000,
    0x00000000000000001c1c183000, 0x000000000000007e0000000000, 0x000000000000000000183c1800,
    0x000006060c0c18303060600000, 0x00001824666666666624180000, 0x000018385818181818187e0000,
    0x00003c6666061c3060607e0000, 0x00007e060c183c0606663c0000, 0x0000060e1e3666667e06060000,
    0x00007e60607c660606663c0000, 0x00003c6660607c6666663c0000, 0x00007e06060c0c181830300000,
    0x00003c6666663c6666663c0000, 0x00003c6666663e0606663c0000, 0x00000000183c180000183c1800,
    0x00000000183c18001c1c183000, 0x0000060c18306030180c060000, 0x00000000007e00007e00000000,
    0x00006030180c060c1830600000, 0x00003c6666061c180018180000, 0x00003c46465e565e40463c0000,
    0x00003c6666667e666666660000, 0x00007c6666667c6666667c0000, 0x00003c666060606060663c0000,
    0x00007c666666666666667c0000, 0x00007e6060607c6060607e0000, 0x00007e6060607c606060600000,
    0x00003c6660606e6666663e0000, 0x0000666666667e666666660000, 0x00007e181818181818187e0000,
    0x000006060606060606663c0000, 0x000062666c7870786c66620000, 0x000060606060606060607e0000,
    0x000042667e7e66666666660000, 0x0000666676767e6e6e66660000, 0x00003c666666666666663c0000,
    0x00007c6666667c606060600000, 0x00003c6666666666766e3c0600, 0x00007c6666667c786c66620000,
    0x00003c6660603c0606663c0000, 0x00007e18181818181818180000, 0x000066666666666666663c0000,
    0x000066666624243c1818180000, 0x000066666666667e7e66420000, 0x00004266243c183c2466420000,
    0x000066663c3c18181818180000, 0x00007e06060c183060607e0000, 0x00003c303030303030303c0000,
    0x000060603030180c0c06060000, 0x00003c0c0c0c0c0c0c0c3c0000, 0x0000183c664200000000000000,
    0x000000000000000000007e7e00, 0x0030180c000000000000000000, 0x00000000003c063e66663e0000,
    0x00006060607c666666667c0000, 0x00000000003c666060663c0000, 0x00000606063e666666663e0000,
    0x00000000003c667e60663c0000, 0x00001c36303078303030300000, 0x00000000003a66663c603c663c,
    0x00006060607c66666666660000, 0x000018180038181818187e0000, 0x0000060600060606060606663c,
    0x0000606060666c78786c660000, 0x000038181818181818187e0000, 0x00000000006c7e7e6666660000,
    0x00000000007c66666666660000, 0x00000000003c666666663c0000, 0x00000000007c6666667c606060,
    0x00000000003e6666663e060606, 0x00000000007c66606060600000, 0x00000000003c66300c663c0000,
    0x00000030307c303030361c0000, 0x000000000066666666663e0000, 0x00000000006666663c3c180000,
    0x00000000006666667e7e240000, 0x000000000066663c3c66660000, 0x0000000000666666663e06663c,
    0x00000000007e060c30607e0000, 0x00001c303018301830301c0000, 0x00001818181818181818180000,
    0x0000380c0c180c180c0c380000, 0x0000327e4c0000000000000000]

/-- The plain built-in font. -/
def regular : MonoFont where
  width := 6
  height := 10
  spacing := 0
  glyphs := .bitmaps 32 regularBitmaps 0x001c2204080800080000

/-- The bold built-in font. -/
def heavy : MonoFont where
  width := 7
  height := 13
  spacing := 0
  glyphs := .bitmaps 32 boldBitmaps 0x00003c6666061c180018180000

end MonoFont

/-- The two built-in fonts. -/
def FontPair.builtIn : FontPair := ⟨.regular, some .heavy⟩

end TabDeck
