import FlowSelect.Text.Case.Run
/-! The upper-case table of Unicode 14.0.

Characters whose full upper-case mapping has several characters (ß becomes SS) are listed with
their expansion; every other character whose upper case is a single other character lies in
exactly one run. -/
namespace FlowSelect.Text.Case

/-- Runs of the single-character upper-case mapping, by increasing code point. -/
def upperRuns : List Run :=
  [⟨0x61, 26, 1, -32⟩, ⟨0xB5, 1, 1, 743⟩, ⟨0xE0, 23, 1, -32⟩, ⟨0xF8, 7, 1, -32⟩,
   ⟨0xFF, 1, 1, 121⟩, ⟨0x101, 24, 2, -1⟩, ⟨0x131, 1, 1, -232⟩, ⟨0x133, 3, 2, -1⟩,
   ⟨0x13A, 8, 2, -1⟩, ⟨0x14B, 23, 2, -1⟩, ⟨0x17A, 3, 2, -1⟩, ⟨0x17F, 1, 1, -300⟩,
   ⟨0x180, 1, 1, 195⟩, ⟨0x183, 2, 2, -1⟩, ⟨0x188, 1, 1, -1⟩, ⟨0x18C, 1, 1, -1⟩,
   ⟨0x192, 1, 1, -1⟩, ⟨0x195, 1, 1, 97⟩, ⟨0x199, 1, 1, -1⟩, ⟨0x19A, 1, 1, 163⟩,
   ⟨0x19E, 1, 1, 130⟩, ⟨0x1A1, 3, 2, -1⟩, ⟨0x1A8, 1, 1, -1⟩, ⟨0x1AD, 1, 1, -1⟩,
   ⟨0x1B0, 1, 1, -1⟩, ⟨0x1B4, 2, 2, -1⟩, ⟨0x1B9, 1, 1, -1⟩, ⟨0x1BD, 1, 1, -1⟩,
   ⟨0x1BF, 1, 1, 56⟩, ⟨0x1C5, 1, 1, -1⟩, ⟨0x1C6, 1, 1, -2⟩, ⟨0x1C8, 1, 1, -1⟩,
   ⟨0x1C9, 1, 1, -2⟩, ⟨0x1CB, 1, 1, -1⟩, ⟨0x1CC, 1, 1, -2⟩, ⟨0x1CE, 8, 2, -1⟩,
   ⟨0x1DD, 1, 1, -79⟩, ⟨0x1DF, 9, 2, -1⟩, ⟨0x1F2, 1, 1, -1⟩, ⟨0x1F3, 1, 1, -2⟩,
   ⟨0x1F5, 1, 1, -1⟩, ⟨0x1F9, 20, 2, -1⟩, ⟨0x223, 9, 2, -1⟩, ⟨0x23C, 1, 1, -1⟩,
   ⟨0x23F, 2, 1, 10815⟩, ⟨0x242, 1, 1, -1⟩, ⟨0x247, 5, 2, -1⟩, ⟨0x250, 1, 1, 10783⟩,
   ⟨0x251, 1, 1, 10780⟩, ⟨0x252, 1, 1, 10782⟩, ⟨0x253, 1, 1, -210⟩, ⟨0x254, 1, 1, -206⟩,
   ⟨0x256, 2, 1, -205⟩, ⟨0x259, 1, 1, -202⟩, ⟨0x25B, 1, 1, -203⟩, ⟨0x25C, 1, 1, 42319⟩,
   ⟨0x260, 1, 1, -205⟩, ⟨0x261, 1, 1, 42315⟩, ⟨0x263, 1, 1, -207⟩, ⟨0x265, 1, 1, 42280⟩,
   ⟨0x266, 1, 1, 42308⟩, ⟨0x268, 1, 1, -209⟩, ⟨0x269, 1, 1, -211⟩, ⟨0x26A, 1, 1, 42308⟩,
   ⟨0x26B, 1, 1, 10743⟩, ⟨0x26C, 1, 1, 42305⟩, ⟨0x26F, 1, 1, -211⟩, ⟨0x271, 1, 1, 10749⟩,
   ⟨0x272, 1, 1, -213⟩, ⟨0x275, 1, 1, -214⟩, ⟨0x27D, 1, 1, 10727⟩, ⟨0x280, 1, 1, -218⟩,
   ⟨0x282, 1, 1, 42307⟩, ⟨0x283, 1, 1, -218⟩, ⟨0x287, 1, 1, 42282⟩, ⟨0x288, 1, 1, -218⟩,
   ⟨0x289, 1, 1, -69⟩, ⟨0x28A, 2, 1, -217⟩, ⟨0x28C, 1, 1, -71⟩, ⟨0x292, 1, 1, -219⟩,
   ⟨0x29D, 1, 1, 42261⟩, ⟨0x29E, 1, 1, 42258⟩, ⟨0x345, 1, 1, 84⟩, ⟨0x371, 2, 2, -1⟩,
   ⟨0x377, 1, 1, -1⟩, ⟨0x37B, 3, 1, 130⟩, ⟨0x3AC, 1, 1, -38⟩, ⟨0x3AD, 3, 1, -37⟩,
   ⟨0x3B1, 17, 1, -32⟩, ⟨0x3C2, 1, 1, -31⟩, ⟨0x3C3, 9, 1, -32⟩, ⟨0x3CC, 1, 1, -64⟩,
   ⟨0x3CD, 2, 1, -63⟩, ⟨0x3D0, 1, 1, -62⟩, ⟨0x3D1, 1, 1, -57⟩, ⟨0x3D5, 1, 1, -47⟩,
   ⟨0x3D6, 1, 1, -54⟩, ⟨0x3D7, 1, 1, -8⟩, ⟨0x3D9, 12, 2, -1⟩, ⟨0x3F0, 1, 1, -86⟩,
   ⟨0x3F1, 1, 1, -80⟩, ⟨0x3F2, 1, 1, 7⟩, ⟨0x3F3, 1, 1, -116⟩, ⟨0x3F5, 1, 1, -96⟩,
   ⟨0x3F8, 1, 1, -1⟩, ⟨0x3FB, 1, 1, -1⟩, ⟨0x430, 32, 1, -32⟩, ⟨0x450, 16, 1, -80⟩,
   ⟨0x461, 17, 2, -1⟩, ⟨0x48B, 27, 2, -1⟩, ⟨0x4C2, 7, 2, -1⟩, ⟨0x4CF, 1, 1, -15⟩,
   ⟨0x4D1, 48, 2, -1⟩, ⟨0x561, 38, 1, -48⟩, ⟨0x10D0, 43, 1, 3008⟩, ⟨0x10FD, 3, 1, 3008⟩,
   ⟨0x13F8, 6, 1, -8⟩, ⟨0x1C80, 1, 1, -6254⟩, ⟨0x1C81, 1, 1, -6253⟩, ⟨0x1C82, 1, 1, -6244⟩,
   ⟨0x1C83, 2, 1, -6242⟩, ⟨0x1C85, 1, 1, -6243⟩, ⟨0x1C86, 1, 1, -6236⟩, ⟨0x1C87, 1, 1, -6181⟩,
   ⟨0x1C88, 1, 1, 35266⟩, ⟨0x1D79, 1, 1, 35332⟩, ⟨0x1D7D, 1, 1, 3814⟩, ⟨0x1D8E, 1, 1, 35384⟩,
   ⟨0x1E01, 75, 2, -1⟩, ⟨0x1E9B, 1, 1, -59⟩, ⟨0x1EA1, 48, 2, -1⟩, ⟨0x1F00, 8, 1, 8⟩,
   ⟨0x1F10, 6, 1, 8⟩, ⟨0x1F20, 8, 1, 8⟩, ⟨0x1F30, 8, 1, 8⟩, ⟨0x1F40, 6, 1, 8⟩,
   ⟨0x1F51, 4, 2, 8⟩, ⟨0x1F60, 8, 1, 8⟩, ⟨0x1F70, 2, 1, 74⟩, ⟨0x1F72, 4, 1, 86⟩,
   ⟨0x1F76, 2, 1, 100⟩, ⟨0x1F78, 2, 1, 128⟩, ⟨0x1F7A, 2, 1, 112⟩, ⟨0x1F7C, 2, 1, 126⟩,
   ⟨0x1FB0, 2, 1, 8⟩, ⟨0x1FBE, 1, 1, -7205⟩, ⟨0x1FD0, 2, 1, 8⟩, ⟨0x1FE0, 2, 1, 8⟩,
   ⟨0x1FE5, 1, 1, 7⟩, ⟨0x214E, 1, 1, -28⟩, ⟨0x2170, 16, 1, -16⟩, ⟨0x2184, 1, 1, -1⟩,
   ⟨0x24D0, 26, 1, -26⟩, ⟨0x2C30, 48, 1, -48⟩, ⟨0x2C61, 1, 1, -1⟩, ⟨0x2C65, 1, 1, -10795⟩,
   ⟨0x2C66, 1, 1, -10792⟩, ⟨0x2C68, 3, 2, -1⟩, ⟨0x2C73, 1, 1, -1⟩, ⟨0x2C76, 1, 1, -1⟩,
   ⟨0x2C81, 50, 2, -1⟩, ⟨0x2CEC, 2, 2, -1⟩, ⟨0x2CF3, 1, 1, -1⟩, ⟨0x2D00, 38, 1, -7264⟩,
   ⟨0x2D27, 1, 1, -7264⟩, ⟨0x2D2D, 1, 1, -7264⟩, ⟨0xA641, 23, 2, -1⟩, ⟨0xA681, 14, 2, -1⟩,
   ⟨0xA723, 7, 2, -1⟩, ⟨0xA733, 31, 2, -1⟩, ⟨0xA77A, 2, 2, -1⟩, ⟨0xA77F, 5, 2, -1⟩,
   ⟨0xA78C, 1, 1, -1⟩, ⟨0xA791, 2, 2, -1⟩, ⟨0xA794, 1, 1, 48⟩, ⟨0xA797, 10, 2, -1⟩,
   ⟨0xA7B5, 8, 2, -1⟩, ⟨0xA7C8, 2, 2, -1⟩, ⟨0xA7D1, 1, 1, -1⟩, ⟨0xA7D7, 2, 2, -1⟩,
   ⟨0xA7F6, 1, 1, -1⟩, ⟨0xAB53, 1, 1, -928⟩, ⟨0xAB70, 80, 1, -38864⟩, ⟨0xFF41, 26, 1, -32⟩,
   ⟨0x10428, 40, 1, -40⟩, ⟨0x104D8, 36, 1, -40⟩, ⟨0x10597, 11, 1, -39⟩, ⟨0x105A3, 15, 1, -39⟩,
   ⟨0x105B3, 7, 1, -39⟩, ⟨0x105BB, 2, 1, -39⟩, ⟨0x10CC0, 51, 1, -64⟩, ⟨0x118C0, 32, 1, -32⟩,
   ⟨0x16E60, 32, 1, -32⟩, ⟨0x1E922, 34, 1, -34⟩]

/-- Characters whose upper case has more than one character, by increasing code point. -/
def upperExpansions : List (Nat × List Char) :=
  [(0xDF, ['S', 'S']), (0x149, ['\u02BC', 'N']), (0x1F0, ['J', '\u030C']),
   (0x390, ['\u0399', '\u0308', '\u0301']), (0x3B0, ['\u03A5', '\u0308', '\u0301']), (0x587, ['\u0535', '\u0552']),
   (0x1E96, ['H', '\u0331']), (0x1E97, ['T', '\u0308']), (0x1E98, ['W', '\u030A']),
   (0x1E99, ['Y', '\u030A']), (0x1E9A, ['A', '\u02BE']), (0x1F50, ['\u03A5', '\u0313']),
   (0x1F52, ['\u03A5', '\u0313', '\u0300']), (0x1F54, ['\u03A5', '\u0313', '\u0301']), (0x1F56, ['\u03A5', '\u0313', '\u0342']),
   (0x1F80, ['\u1F08', '\u0399']), (0x1F81, ['\u1F09', '\u0399']), (0x1F82, ['\u1F0A', '\u0399']),
   (0x1F83, ['\u1F0B', '\u0399']), (0x1F84, ['\u1F0C', '\u0399']), (0x1F85, ['\u1F0D', '\u0399']),
   (0x1F86, ['\u1F0E', '\u0399']), (0x1F87, ['\u1F0F', '\u0399']), (0x1F88, ['\u1F08', '\u0399']),
   (0x1F89, ['\u1F09', '\u0399']), (0x1F8A, ['\u1F0A', '\u0399']), (0x1F8B, ['\u1F0B', '\u0399']),
   (0x1F8C, ['\u1F0C', '\u0399']), (0x1F8D, ['\u1F0D', '\u0399']), (0x1F8E, ['\u1F0E', '\u0399']),
   (0x1F8F, ['\u1F0F', '\u0399']), (0x1F90, ['\u1F28', '\u0399']), (0x1F91, ['\u1F29', '\u0399']),
   (0x1F92, ['\u1F2A', '\u0399']), (0x1F93, ['\u1F2B', '\u0399']), (0x1F94, ['\u1F2C', '\u0399']),
   (0x1F95, ['\u1F2D', '\u0399']), (0x1F96, ['\u1F2E', '\u0399']), (0x1F97, ['\u1F2F', '\u0399']),
   (0x1F98, ['\u1F28', '\u0399']), (0x1F99, ['\u1F29', '\u0399']), (0x1F9A, ['\u1F2A', '\u0399']),
   (0x1F9B, ['\u1F2B', '\u0399']), (0x1F9C, ['\u1F2C', '\u0399']), (0x1F9D, ['\u1F2D', '\u0399']),
   (0x1F9E, ['\u1F2E', '\u0399']), (0x1F9F, ['\u1F2F', '\u0399']), (0x1FA0, ['\u1F68', '\u0399']),
   (0x1FA1, ['\u1F69', '\u0399']), (0x1FA2, ['\u1F6A', '\u0399']), (0x1FA3, ['\u1F6B', '\u0399']),
   (0x1FA4, ['\u1F6C', '\u0399']), (0x1FA5, ['\u1F6D', '\u0399']), (0x1FA6, ['\u1F6E', '\u0399']),
   (0x1FA7, ['\u1F6F', '\u0399']), (0x1FA8, ['\u1F68', '\u0399']), (0x1FA9, ['\u1F69', '\u0399']),
   (0x1FAA, ['\u1F6A', '\u0399']), (0x1FAB, ['\u1F6B', '\u0399']), (0x1FAC, ['\u1F6C', '\u0399']),
   (0x1FAD, ['\u1F6D', '\u0399']), (0x1FAE, ['\u1F6E', '\u0399']), (0x1FAF, ['\u1F6F', '\u0399']),
   (0x1FB2, ['\u1FBA', '\u0399']), (0x1FB3, ['\u0391', '\u0399']), (0x1FB4, ['\u0386', '\u0399']),
   (0x1FB6, ['\u0391', '\u0342']), (0x1FB7, ['\u0391', '\u0342', '\u0399']), (0x1FBC, ['\u0391', '\u0399']),
   (0x1FC2, ['\u1FCA', '\u0399']), (0x1FC3, ['\u0397', '\u0399']), (0x1FC4, ['\u0389', '\u0399']),
   (0x1FC6, ['\u0397', '\u0342']), (0x1FC7, ['\u0397', '\u0342', '\u0399']), (0x1FCC, ['\u0397', '\u0399']),
   (0x1FD2, ['\u0399', '\u0308', '\u0300']), (0x1FD3, ['\u0399', '\u0308', '\u0301']), (0x1FD6, ['\u0399', '\u0342']),
   (0x1FD7, ['\u0399', '\u0308', '\u0342']), (0x1FE2, ['\u03A5', '\u0308', '\u0300']), (0x1FE3, ['\u03A5', '\u0308', '\u0301']),
   (0x1FE4, ['\u03A1', '\u0313']), (0x1FE6, ['\u03A5', '\u0342']), (0x1FE7, ['\u03A5', '\u0308', '\u0342']),
   (0x1FF2, ['\u1FFA', '\u0399']), (0x1FF3, ['\u03A9', '\u0399']), (0x1FF4, ['\u038F', '\u0399']),
   (0x1FF6, ['\u03A9', '\u0342']), (0x1FF7, ['\u03A9', '\u0342', '\u0399']), (0x1FFC, ['\u03A9', '\u0399']),
   (0xFB00, ['F', 'F']), (0xFB01, ['F', 'I']), (0xFB02, ['F', 'L']),
   (0xFB03, ['F', 'F', 'I']), (0xFB04, ['F', 'F', 'L']), (0xFB05, ['S', 'T']),
   (0xFB06, ['S', 'T']), (0xFB13, ['\u0544', '\u0546']), (0xFB14, ['\u0544', '\u0535']),
   (0xFB15, ['\u0544', '\u053B']), (0xFB16, ['\u054E', '\u0546']), (0xFB17, ['\u0544', '\u053D'])]

end FlowSelect.Text.Case
