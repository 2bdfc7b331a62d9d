import SiteSearch.Unicode.Ranges

/-
  Characters that stand for others in names.

  Key definitions include:
    * `SiteSearch.Domain.ignoredRanges`
    * `SiteSearch.Domain.refusedRanges`
    * `SiteSearch.Domain.shiftedRanges`
    * `SiteSearch.Domain.foldedRows`

  Letters in another style, width or position, enclosed and
  squared texts, ligatures and fractions stand for plain
  texts.  Capital letters and precomposed characters are not
  listed here, unless something special is to be said.
-/

------------------------------------------------------------
-- Ignored and Refused Characters
------------------------------------------------------------

namespace SiteSearch.Domain

/- The code points that a name is read without. -/
def ignoredRanges : Unicode.Ranges :=
  [(0xAD, 0xAD), (0x34F, 0x34F), (0x115F, 0x1160), (0x17B4, 0x17B5),
   (0x180B, 0x180F), (0x200B, 0x200B), (0x2060, 0x2064),
   (0x206A, 0x206F), (0x3164, 0x3164), (0xFE00, 0xFE0F),
   (0xFEFF, 0xFEFF), (0xFFA0, 0xFFA0), (0x1BCA0, 0x1BCA3),
   (0x1D173, 0x1D17A), (0xE0100, 0xE01EF)]

/-
  The printable code points that no name may hold.  Most of
  them stand for texts with a space or a delimiter.
-/
def refusedRanges : Unicode.Ranges :=
  [(0xA8, 0xA8), (0xAF, 0xAF), (0xB4, 0xB4), (0xB8, 0xB8),
   (0x2D8, 0x2DD), (0x37A, 0x37A), (0x384, 0x385), (0x1FBD, 0x1FBD),
   (0x1FBF, 0x1FC1), (0x1FCD, 0x1FCF), (0x1FDD, 0x1FDF),
   (0x1FED, 0x1FEE), (0x1FFD, 0x1FFE), (0x2017, 0x2017),
   (0x2024, 0x2026), (0x203E, 0x203E), (0x2047, 0x2049),
   (0x2100, 0x2101), (0x2105, 0x2106), (0x2488, 0x249B),
   (0x2A74, 0x2A74), (0x2FF0, 0x2FFF), (0x309B, 0x309C),
   (0x31EF, 0x31EF), (0x33C2, 0x33C2), (0x33C7, 0x33C7),
   (0x33D8, 0x33D8), (0xFC5E, 0xFC63), (0xFDFA, 0xFDFB),
   (0xFE12, 0xFE13), (0xFE16, 0xFE16), (0xFE19, 0xFE19),
   (0xFE30, 0xFE30), (0xFE47, 0xFE4C), (0xFE52, 0xFE52),
   (0xFE55, 0xFE56), (0xFE5F, 0xFE5F), (0xFE68, 0xFE68),
   (0xFE6A, 0xFE70), (0xFE72, 0xFE72), (0xFE74, 0xFE76),
   (0xFE78, 0xFE78), (0xFE7A, 0xFE7A), (0xFE7C, 0xFE7C),
   (0xFE7E, 0xFE7E), (0xFF03, 0xFF03), (0xFF05, 0xFF05),
   (0xFF0F, 0xFF0F), (0xFF1A, 0xFF1A), (0xFF1F, 0xFF20),
   (0xFF3B, 0xFF3E), (0xFF5C, 0xFF5C), (0xFFE3, 0xFFE3),
   (0xFFFC, 0xFFFD), (0x1F100, 0x1F100)]

end SiteSearch.Domain

------------------------------------------------------------
-- Shifted Characters
------------------------------------------------------------

namespace SiteSearch.Domain

/-
  Runs of code points that stand for a run of others: first,
  last, first of the others.
-/
def shiftedRanges : List (Nat × Nat × Nat) :=
  [(0x13A0, 0x13F5, 0x13A0), (0x13F8, 0x13FD, 0x13F0),
   (0x1D33, 0x1D3A, 0x67), (0x1DAE, 0x1DB1, 0x272),
   (0x2074, 0x2079, 0x34), (0x2080, 0x2089, 0x30),
   (0x2096, 0x2099, 0x6B), (0x2135, 0x2138, 0x5D0),
   (0x2460, 0x2468, 0x31), (0x24B6, 0x24CF, 0x61),
   (0x24D0, 0x24E9, 0x61), (0x313A, 0x313F, 0x11B0),
   (0x3145, 0x314E, 0x1109), (0x314F, 0x3163, 0x1161),
   (0x3178, 0x317C, 0x112B), (0x3269, 0x326D, 0x110E),
   (0x32E4, 0x32E9, 0x30CA), (0x32EE, 0x32F2, 0x30DE),
   (0x32F5, 0x32FA, 0x30E8), (0x32FB, 0x32FE, 0x30EF),
   (0xAB70, 0xABBF, 0x13A0), (0xFE41, 0xFE44, 0x300C),
   (0xFF06, 0xFF0E, 0x26), (0xFF10, 0xFF19, 0x30),
   (0xFF1B, 0xFF1E, 0x3B), (0xFF21, 0xFF3A, 0x61),
   (0xFF3F, 0xFF5B, 0x5F), (0xFF85, 0xFF8A, 0x30CA),
   (0xFF8F, 0xFF93, 0x30DE), (0xFF96, 0xFF9B, 0x30E8),
   (0xFFAA, 0xFFAF, 0x11B0), (0xFFB5, 0xFFBE, 0x1109),
   (0xFFC2, 0xFFC7, 0x1161), (0xFFCA, 0xFFCF, 0x1167),
   (0xFFD2, 0xFFD7, 0x116D), (0xFFE9, 0xFFEC, 0x2190),
   (0x1CCD6, 0x1CCEF, 0x61), (0x1CCF0, 0x1CCF9, 0x30),
   (0x1D400, 0x1D419, 0x61), (0x1D41A, 0x1D433, 0x61),
   (0x1D434, 0x1D44D, 0x61), (0x1D44E, 0x1D454, 0x61),
   (0x1D456, 0x1D467, 0x69), (0x1D468, 0x1D481, 0x61),
   (0x1D482, 0x1D49B, 0x61), (0x1D4A9, 0x1D4AC, 0x6E),
   (0x1D4AE, 0x1D4B5, 0x73), (0x1D4B6, 0x1D4B9, 0x61),
   (0x1D4BD, 0x1D4C3, 0x68), (0x1D4C5, 0x1D4CF, 0x70),
   (0x1D4D0, 0x1D4E9, 0x61), (0x1D4EA, 0x1D503, 0x61),
   (0x1D507, 0x1D50A, 0x64), (0x1D50D, 0x1D514, 0x6A),
   (0x1D516, 0x1D51C, 0x73), (0x1D51E, 0x1D537, 0x61),
   (0x1D53B, 0x1D53E, 0x64), (0x1D540, 0x1D544, 0x69),
   (0x1D54A, 0x1D550, 0x73), (0x1D552, 0x1D56B, 0x61),
   (0x1D56C, 0x1D585, 0x61), (0x1D586, 0x1D59F, 0x61),
   (0x1D5A0, 0x1D5B9, 0x61), (0x1D5BA, 0x1D5D3, 0x61),
   (0x1D5D4, 0x1D5ED, 0x61), (0x1D5EE, 0x1D607, 0x61),
   (0x1D608, 0x1D621, 0x61), (0x1D622, 0x1D63B, 0x61),
   (0x1D63C, 0x1D655, 0x61), (0x1D656, 0x1D66F, 0x61),
   (0x1D670, 0x1D689, 0x61), (0x1D68A, 0x1D6A3, 0x61),
   (0x1D6A8, 0x1D6B8, 0x3B1), (0x1D6BA, 0x1D6C0, 0x3C3),
   (0x1D6C2, 0x1D6D2, 0x3B1), (0x1D6D4, 0x1D6DA, 0x3C3),
   (0x1D6E2, 0x1D6F2, 0x3B1), (0x1D6F4, 0x1D6FA, 0x3C3),
   (0x1D6FC, 0x1D70C, 0x3B1), (0x1D70E, 0x1D714, 0x3C3),
   (0x1D71C, 0x1D72C, 0x3B1), (0x1D72E, 0x1D734, 0x3C3),
   (0x1D736, 0x1D746, 0x3B1), (0x1D748, 0x1D74E, 0x3C3),
   (0x1D756, 0x1D766, 0x3B1), (0x1D768, 0x1D76E, 0x3C3),
   (0x1D770, 0x1D780, 0x3B1), (0x1D782, 0x1D788, 0x3C3),
   (0x1D790, 0x1D7A0, 0x3B1), (0x1D7A2, 0x1D7A8, 0x3C3),
   (0x1D7AA, 0x1D7BA, 0x3B1), (0x1D7BC, 0x1D7C2, 0x3C3),
   (0x1D7CE, 0x1D7D7, 0x30), (0x1D7D8, 0x1D7E1, 0x30),
   (0x1D7E2, 0x1D7EB, 0x30), (0x1D7EC, 0x1D7F5, 0x30),
   (0x1D7F6, 0x1D7FF, 0x30), (0x1E030, 0x1E038, 0x430),
   (0x1E03C, 0x1E046, 0x43E), (0x1E051, 0x1E059, 0x430),
   (0x1E05F, 0x1E064, 0x443), (0x1EE0A, 0x1EE0D, 0x643),
   (0x1EE2A, 0x1EE2D, 0x643), (0x1F130, 0x1F149, 0x61),
   (0x1FBF0, 0x1FBF9, 0x30)]

end SiteSearch.Domain

------------------------------------------------------------
-- Folded Characters
------------------------------------------------------------

namespace SiteSearch.Domain

/- Letters and signs below U+2000. -/
def letterRows : Unicode.Rows String :=
  [(0xAA, ["a"]), (0xB2, ["2", "3"]), (0xB5, ["μ"]),
   (0xB9, ["1", "o"]), (0xBC, ["1⁄4", "1⁄2", "3⁄4"]),
   (0x132, ["ij", "ij"]), (0x13F, ["l·", "l·"]), (0x149, ["ʼn"]),
   (0x17F, ["s"]),
   (0x1C4, ["dž", "dž", "dž", "lj", "lj", "lj", "nj", "nj", "nj"]),
   (0x1F1, ["dz", "dz", "dz"]),
   (0x2B0, ["h", "ɦ", "j", "r", "ɹ", "ɻ", "ʁ", "w", "y"]),
   (0x2E0, ["ɣ", "l", "s", "x", "ʕ"]), (0x345, ["ι"]),
   (0x3D0, ["β", "θ", "υ", "ύ", "ϋ", "φ", "π"]),
   (0x3F0, ["κ", "ρ", "σ"]), (0x3F5, ["ε"]), (0x3F9, ["σ"]),
   (0x587, ["եւ"]),
   (0x675,
    ["\u0627\u0674", "\u0648\u0674", "\u06c7\u0674",
     "\u064a\u0674"]),
   (0xE33, ["\u0e4dา"]), (0xEB3, ["\u0ecdາ"]),
   (0xEDC, ["ຫນ", "ຫມ"]), (0xF0C, ["་"]),
   (0xF77, ["\u0fb2\u0f71\u0f80"]), (0xF79, ["\u0fb3\u0f71\u0f80"]),
   (0x10FC, ["ნ"]),
   (0x1C80, ["в", "д", "о", "с", "т", "т", "ъ", "ѣ", "ꙋ"]),
   (0x1D2C, ["a", "æ", "b"]), (0x1D30, ["d", "e", "ǝ"]),
   (0x1D3C,
    ["o", "ȣ", "p", "r", "t", "u", "w", "a", "ɐ", "ɑ", "ᴂ", "b",
     "d", "e", "ə", "ɛ", "ɜ", "g"]),
   (0x1D4F,
    ["k", "m", "ŋ", "o", "ɔ", "ᴖ", "ᴗ", "p", "t", "u", "ᴝ", "ɯ",
     "v", "ᴥ", "β", "γ", "δ", "φ", "χ", "i", "r", "u", "v", "β",
     "γ", "ρ", "φ", "χ"]),
   (0x1D78, ["н"]),
   (0x1D9B,
    ["ɒ", "c", "ɕ", "ð", "ɜ", "f", "ɟ", "ɡ", "ɥ", "ɨ", "ɩ", "ɪ",
     "ᵻ", "ʝ", "ɭ", "ᶅ", "ʟ", "ɱ", "ɰ"]),
   (0x1DB2,
    ["ɸ", "ʂ", "ʃ", "ƫ", "ʉ", "ʊ", "ᴜ", "ʋ", "ʌ", "z", "ʐ", "ʑ",
     "ʒ", "θ"]),
   (0x1E9A, ["aʾ", "ṡ"]),
   (0x1F80,
    ["ἀι", "ἁι", "ἂι", "ἃι", "ἄι", "ἅι", "ἆι", "ἇι", "ἀι", "ἁι",
     "ἂι", "ἃι", "ἄι", "ἅι", "ἆι", "ἇι", "ἠι", "ἡι", "ἢι", "ἣι",
     "ἤι", "ἥι", "ἦι", "ἧι", "ἠι", "ἡι", "ἢι", "ἣι", "ἤι", "ἥι",
     "ἦι", "ἧι", "ὠι", "ὡι", "ὢι", "ὣι", "ὤι", "ὥι", "ὦι", "ὧι",
     "ὠι", "ὡι", "ὢι", "ὣι", "ὤι", "ὥι", "ὦι", "ὧι"]),
   (0x1FB2, ["ὰι", "αι", "άι"]), (0x1FB7, ["ᾶι"]), (0x1FBC, ["αι"]),
   (0x1FC2, ["ὴι", "ηι", "ήι"]), (0x1FC7, ["ῆι"]), (0x1FCC, ["ηι"]),
   (0x1FF2, ["ὼι", "ωι", "ώι"]), (0x1FF7, ["ῶι"]), (0x1FFC, ["ωι"])]

/- Signs, numbers and letterlike characters. -/
def signRows : Unicode.Rows String :=
  [(0x2011, ["‐"]), (0x2033, ["′′", "′′′"]),
   (0x2036, ["‵‵", "‵‵‵"]), (0x203C, ["!!"]), (0x2057, ["′′′′"]),
   (0x2070, ["0", "i"]), (0x207A, ["+", "−", "=", "(", ")", "n"]),
   (0x208A, ["+", "−", "=", "(", ")"]),
   (0x2090, ["a", "e", "o", "x", "ə", "h"]),
   (0x209A, ["p", "s", "t"]), (0x20A8, ["rs"]),
   (0x2102, ["c", "°c"]), (0x2107, ["ɛ"]),
   (0x2109,
    ["°f", "g", "h", "h", "h", "h", "ħ", "i", "i", "l", "l"]),
   (0x2115, ["n", "no"]), (0x2119, ["p", "q", "r", "r", "r"]),
   (0x2120, ["sm", "tel", "tm"]), (0x2124, ["z"]), (0x2128, ["z"]),
   (0x212C, ["b", "c"]), (0x212F, ["e", "e", "f"]),
   (0x2133, ["m", "o"]), (0x2139, ["i"]),
   (0x213B, ["fax", "π", "γ", "γ", "π", "∑"]),
   (0x2145, ["d", "d", "e", "i", "j"]),
   (0x2150,
    ["1⁄7", "1⁄9", "1⁄10", "1⁄3", "2⁄3", "1⁄5", "2⁄5", "3⁄5", "4⁄5",
     "1⁄6", "5⁄6", "1⁄8", "3⁄8", "5⁄8", "7⁄8", "1⁄", "i", "ii",
     "iii", "iv", "v", "vi", "vii", "viii", "ix", "x", "xi", "xii",
     "l", "c", "d", "m", "i", "ii", "iii", "iv", "v", "vi", "vii",
     "viii", "ix", "x", "xi", "xii", "l", "c", "d", "m"]),
   (0x2189, ["0⁄3"]), (0x222C, ["∫∫", "∫∫∫"]),
   (0x222F, ["∮∮", "∮∮∮"]),
   (0x2469,
    ["10", "11", "12", "13", "14", "15", "16", "17", "18", "19",
     "20", "(1)", "(2)", "(3)", "(4)", "(5)", "(6)", "(7)", "(8)",
     "(9)", "(10)", "(11)", "(12)", "(13)", "(14)", "(15)", "(16)",
     "(17)", "(18)", "(19)", "(20)"]),
   (0x249C,
    ["(a)", "(b)", "(c)", "(d)", "(e)", "(f)", "(g)", "(h)", "(i)",
     "(j)", "(k)", "(l)", "(m)", "(n)", "(o)", "(p)", "(q)", "(r)",
     "(s)", "(t)", "(u)", "(v)", "(w)", "(x)", "(y)", "(z)"]),
   (0x24EA, ["0"]), (0x2A0C, ["∫∫∫∫"]), (0x2A75, ["==", "==="]),
   (0x2C7C, ["j", "v"]), (0x2D6F, ["ⵡ"]), (0x2E9F, ["母"]),
   (0x2EF3, ["龟"]),
   (0x2F00,
    ["一", "丨", "丶", "丿", "乙", "亅", "二", "亠", "人", "儿", "入", "八",
     "冂", "冖", "冫", "几", "凵", "刀", "力", "勹", "匕", "匚", "匸", "十",
     "卜", "卩", "厂", "厶", "又", "口", "囗", "土", "士", "夂", "夊", "夕",
     "大", "女", "子", "宀", "寸", "小", "尢", "尸", "屮", "山", "巛", "工",
     "己", "巾", "干", "幺", "广", "廴", "廾", "弋", "弓", "彐", "彡", "彳",
     "心", "戈", "戶", "手", "支", "攴", "文", "斗", "斤", "方", "无", "日",
     "曰", "月", "木", "欠", "止", "歹", "殳", "毋", "比", "毛", "氏", "气",
     "水", "火", "爪", "父", "爻", "爿", "片", "牙", "牛", "犬", "玄", "玉",
     "瓜", "瓦", "甘", "生", "用", "田", "疋", "疒", "癶", "白", "皮", "皿",
     "目", "矛", "矢", "石", "示", "禸", "禾", "穴", "立", "竹", "米", "糸",
     "缶", "网", "羊", "羽", "老", "而", "耒", "耳", "聿", "肉", "臣", "自",
     "至", "臼", "舌", "舛", "舟", "艮", "色", "艸", "虍", "虫", "血", "行",
     "衣", "襾", "見", "角", "言", "谷", "豆", "豕", "豸", "貝", "赤", "走",
     "足", "身", "車", "辛", "辰", "辵", "邑", "酉", "釆", "里", "金", "長",
     "門", "阜", "隶", "隹", "雨", "靑", "非", "面", "革", "韋", "韭", "音",
     "頁", "風", "飛", "食", "首", "香", "馬", "骨", "高", "髟", "鬥", "鬯",
     "鬲", "鬼", "魚", "鳥", "鹵", "鹿", "麥", "麻", "黃", "黍", "黑", "黹",
     "黽", "鼎", "鼓", "鼠", "鼻", "齊", "齒", "龍", "龜", "龠"])]

/- Circled, parenthesized and squared texts. -/
def squareRows : Unicode.Rows String :=
  [(0x3002, ["."]), (0x3036, ["〒"]), (0x3038, ["十", "卄", "卅"]),
   (0x309F, ["より"]), (0x30FF, ["コト"]),
   (0x3131, ["ᄀ", "ᄁ", "ᆪ", "ᄂ", "ᆬ", "ᆭ", "ᄃ", "ᄄ", "ᄅ"]),
   (0x3140, ["ᄚ", "ᄆ", "ᄇ", "ᄈ", "ᄡ"]),
   (0x3165,
    ["ᄔ", "ᄕ", "ᇇ", "ᇈ", "ᇌ", "ᇎ", "ᇓ", "ᇗ", "ᇙ", "ᄜ", "ᇝ", "ᇟ",
     "ᄝ", "ᄞ", "ᄠ", "ᄢ", "ᄣ", "ᄧ", "ᄩ"]),
   (0x317D,
    ["ᄲ", "ᄶ", "ᅀ", "ᅇ", "ᅌ", "ᇱ", "ᇲ", "ᅗ", "ᅘ", "ᅙ", "ᆄ", "ᆅ",
     "ᆈ", "ᆑ", "ᆒ", "ᆔ", "ᆞ", "ᆡ"]),
   (0x3192,
    ["一", "二", "三", "四", "上", "中", "下", "甲", "乙", "丙", "丁", "天",
     "地", "人"]),
   (0x3200,
    ["(ᄀ)", "(ᄂ)", "(ᄃ)", "(ᄅ)", "(ᄆ)", "(ᄇ)", "(ᄉ)", "(ᄋ)", "(ᄌ)",
     "(ᄎ)", "(ᄏ)", "(ᄐ)", "(ᄑ)", "(ᄒ)", "(가)", "(나)", "(다)", "(라)",
     "(마)", "(바)", "(사)", "(아)", "(자)", "(차)", "(카)", "(타)", "(파)",
     "(하)", "(주)", "(오전)", "(오후)"]),
   (0x3220,
    ["(一)", "(二)", "(三)", "(四)", "(五)", "(六)", "(七)", "(八)", "(九)",
     "(十)", "(月)", "(火)", "(水)", "(木)", "(金)", "(土)", "(日)", "(株)",
     "(有)", "(社)", "(名)", "(特)", "(財)", "(祝)", "(労)", "(代)", "(呼)",
     "(学)", "(監)", "(企)", "(資)", "(協)", "(祭)", "(休)", "(自)", "(至)",
     "問", "幼", "文", "箏"]),
   (0x3250,
    ["pte", "21", "22", "23", "24", "25", "26", "27", "28", "29",
     "30", "31", "32", "33", "34", "35", "ᄀ", "ᄂ", "ᄃ", "ᄅ", "ᄆ",
     "ᄇ", "ᄉ", "ᄋ", "ᄌ"]),
   (0x326E,
    ["가", "나", "다", "라", "마", "바", "사", "아", "자", "차", "카", "타",
     "파", "하", "참고", "주의", "우"]),
   (0x3280,
    ["一", "二", "三", "四", "五", "六", "七", "八", "九", "十", "月", "火",
     "水", "木", "金", "土", "日", "株", "有", "社", "名", "特", "財", "祝",
     "労", "秘", "男", "女", "適", "優", "印", "注", "項", "休", "写", "正",
     "上", "中", "下", "左", "右", "医", "宗", "学", "監", "企", "資", "協",
     "夜", "36", "37", "38", "39", "40", "41", "42", "43", "44",
     "45", "46", "47", "48", "49", "50", "1月", "2月", "3月", "4月",
     "5月", "6月", "7月", "8月", "9月", "10月", "11月", "12月", "hg", "erg",
     "ev", "ltd", "ア", "イ", "ウ", "エ", "オ", "カ", "キ", "ク", "ケ", "コ",
     "サ", "シ", "ス", "セ", "ソ", "タ", "チ", "ツ", "テ", "ト"]),
   (0x32EA, ["ヒ", "フ", "ヘ", "ホ"]), (0x32F3, ["ヤ", "ユ"]),
   (0x32FF,
    ["令和", "アパート", "アルファ", "アンペア", "アール", "イニング", "インチ", "ウォン",
     "エスクード", "エーカー", "オンス", "オーム", "カイリ", "カラット", "カロリー", "ガロン",
     "ガンマ", "ギガ", "ギニー", "キュリー", "ギルダー", "キロ", "キログラム", "キロメートル",
     "キロワット", "グラム", "グラムトン", "クルゼイロ", "クローネ", "ケース", "コルナ", "コーポ",
     "サイクル", "サンチーム", "シリング", "センチ", "セント", "ダース", "デシ", "ドル", "トン",
     "ナノ", "ノット", "ハイツ", "パーセント", "パーツ", "バーレル", "ピアストル", "ピクル",
     "ピコ", "ビル", "ファラッド", "フィート", "ブッシェル", "フラン", "ヘクタール", "ペソ",
     "ペニヒ", "ヘルツ", "ペンス", "ページ", "ベータ", "ポイント", "ボルト", "ホン", "ポンド",
     "ホール", "ホーン", "マイクロ", "マイル", "マッハ", "マルク", "マンション", "ミクロン",
     "ミリ", "ミリバール", "メガ", "メガトン", "メートル", "ヤード", "ヤール", "ユアン",
     "リットル", "リラ", "ルピー", "ルーブル", "レム", "レントゲン", "ワット", "0点", "1点",
     "2点", "3点", "4点", "5点", "6点", "7点", "8点", "9点", "10点", "11点",
     "12点", "13点", "14点", "15点", "16点", "17点", "18点", "19点", "20点",
     "21点", "22点", "23点", "24点", "hpa", "da", "au", "bar", "ov",
     "pc", "dm", "dm2", "dm3", "iu", "平成", "昭和", "大正", "明治", "株式会社",
     "pa", "na", "μa", "ma", "ka", "kb", "mb", "gb", "cal", "kcal",
     "pf", "nf", "μf", "μg", "mg", "kg", "hz", "khz", "mhz", "ghz",
     "thz", "μl", "ml", "dl", "kl", "fm", "nm", "μm", "mm", "cm",
     "km", "mm2", "cm2", "m2", "km2", "mm3", "cm3", "m3", "km3",
     "m∕s", "m∕s2", "pa", "kpa", "mpa", "gpa", "rad", "rad∕s",
     "rad∕s2", "ps", "ns", "μs", "ms", "pv", "nv", "μv", "mv", "kv",
     "mv", "pw", "nw", "μw", "mw", "kw", "mw", "kω", "mω"]),
   (0x33C3, ["bq", "cc", "cd", "c∕kg"]),
   (0x33C8,
    ["db", "gy", "ha", "hp", "in", "kk", "km", "kt", "lm", "ln",
     "log", "lx", "mb", "mil", "mol", "ph"]),
   (0x33D9,
    ["ppm", "pr", "sr", "sv", "wb", "v∕m", "a∕m", "1日", "2日", "3日",
     "4日", "5日", "6日", "7日", "8日", "9日", "10日", "11日", "12日", "13日",
     "14日", "15日", "16日", "17日", "18日", "19日", "20日", "21日", "22日",
     "23日", "24日", "25日", "26日", "27日", "28日", "29日", "30日", "31日",
     "gal"]),
   (0xA69C, ["ъ", "ь"]), (0xA770, ["ꝯ"]),
   (0xA7F1, ["s", "c", "f", "q"]), (0xA7F8, ["ħ", "œ"]),
   (0xAB5C, ["ꜧ", "ꬷ", "ɫ", "ꭒ"]), (0xAB69, ["ʍ"])]

/-
  Compatibility ideographs, ligatures and Arabic
  presentation forms.
-/
def arabicRows : Unicode.Rows String :=
  [(0xFB00, ["ff", "fi", "fl", "ffi", "ffl", "st", "st"]),
   (0xFB13, ["մն", "մե", "մի", "վն", "մխ"]),
   (0xFB20,
    ["\u05e2", "\u05d0", "\u05d3", "\u05d4", "\u05db", "\u05dc",
     "\u05dd", "\u05e8", "\u05ea", "+"]),
   (0xFB4F,
    ["\u05d0\u05dc", "\u0671", "\u0671", "\u067b", "\u067b",
     "\u067b", "\u067b", "\u067e", "\u067e", "\u067e", "\u067e",
     "\u0680", "\u0680", "\u0680", "\u0680", "\u067a", "\u067a",
     "\u067a", "\u067a", "\u067f", "\u067f", "\u067f", "\u067f",
     "\u0679", "\u0679", "\u0679", "\u0679", "\u06a4", "\u06a4",
     "\u06a4", "\u06a4", "\u06a6", "\u06a6", "\u06a6", "\u06a6",
     "\u0684", "\u0684", "\u0684", "\u0684", "\u0683", "\u0683",
     "\u0683", "\u0683", "\u0686", "\u0686", "\u0686", "\u0686",
     "\u0687", "\u0687", "\u0687", "\u0687", "\u068d", "\u068d",
     "\u068c", "\u068c", "\u068e", "\u068e", "\u0688", "\u0688",
     "\u0698", "\u0698", "\u0691", "\u0691", "\u06a9", "\u06a9",
     "\u06a9", "\u06a9", "\u06af", "\u06af", "\u06af", "\u06af",
     "\u06b3", "\u06b3", "\u06b3", "\u06b3", "\u06b1", "\u06b1",
     "\u06b1", "\u06b1", "\u06ba", "\u06ba", "\u06bb", "\u06bb",
     "\u06bb", "\u06bb", "\u06c0", "\u06c0", "\u06c1", "\u06c1",
     "\u06c1", "\u06c1", "\u06be", "\u06be", "\u06be", "\u06be",
     "\u06d2", "\u06d2", "\u06d3", "\u06d3"]),
   (0xFBD3,
    ["\u06ad", "\u06ad", "\u06ad", "\u06ad", "\u06c7", "\u06c7",
     "\u06c6", "\u06c6", "\u06c8", "\u06c8", "\u06c7\u0674",
     "\u06cb", "\u06cb", "\u06c5", "\u06c5", "\u06c9", "\u06c9",
     "\u06d0", "\u06d0", "\u06d0", "\u06d0", "\u0649", "\u0649",
     "\u0626\u0627", "\u0626\u0627", "\u0626\u06d5", "\u0626\u06d5",
     "\u0626\u0648", "\u0626\u0648", "\u0626\u06c7", "\u0626\u06c7",
     "\u0626\u06c6", "\u0626\u06c6", "\u0626\u06c8", "\u0626\u06c8",
     "\u0626\u06d0", "\u0626\u06d0", "\u0626\u06d0", "\u0626\u0649",
     "\u0626\u0649", "\u0626\u0649", "\u06cc", "\u06cc", "\u06cc",
     "\u06cc", "\u0626\u062c", "\u0626\u062d", "\u0626\u0645",
     "\u0626\u0649", "\u0626\u064a", "\u0628\u062c", "\u0628\u062d",
     "\u0628\u062e", "\u0628\u0645", "\u0628\u0649", "\u0628\u064a",
     "\u062a\u062c", "\u062a\u062d", "\u062a\u062e", "\u062a\u0645",
     "\u062a\u0649", "\u062a\u064a", "\u062b\u062c", "\u062b\u0645",
     "\u062b\u0649", "\u062b\u064a", "\u062c\u062d", "\u062c\u0645",
     "\u062d\u062c", "\u062d\u0645", "\u062e\u062c", "\u062e\u062d",
     "\u062e\u0645", "\u0633\u062c", "\u0633\u062d", "\u0633\u062e",
     "\u0633\u0645", "\u0635\u062d", "\u0635\u0645", "\u0636\u062c",
     "\u0636\u062d", "\u0636\u062e", "\u0636\u0645", "\u0637\u062d",
     "\u0637\u0645", "\u0638\u0645", "\u0639\u062c", "\u0639\u0645",
     "\u063a\u062c", "\u063a\u0645", "\u0641\u062c", "\u0641\u062d",
     "\u0641\u062e", "\u0641\u0645", "\u0641\u0649", "\u0641\u064a",
     "\u0642\u062d", "\u0642\u0645", "\u0642\u0649", "\u0642\u064a",
     "\u0643\u0627", "\u0643\u062c", "\u0643\u062d", "\u0643\u062e",
     "\u0643\u0644", "\u0643\u0645", "\u0643\u0649", "\u0643\u064a",
     "\u0644\u062c", "\u0644\u062d", "\u0644\u062e", "\u0644\u0645",
     "\u0644\u0649", "\u0644\u064a", "\u0645\u062c", "\u0645\u062d",
     "\u0645\u062e", "\u0645\u0645", "\u0645\u0649", "\u0645\u064a",
     "\u0646\u062c", "\u0646\u062d", "\u0646\u062e", "\u0646\u0645",
     "\u0646\u0649", "\u0646\u064a", "\u0647\u062c", "\u0647\u0645",
     "\u0647\u0649", "\u0647\u064a", "\u064a\u062c", "\u064a\u062d",
     "\u064a\u062e", "\u064a\u0645", "\u064a\u0649", "\u064a\u064a",
     "\u0630\u0670", "\u0631\u0670", "\u0649\u0670"]),
   (0xFC64,
    ["\u0626\u0631", "\u0626\u0632", "\u0626\u0645", "\u0626\u0646",
     "\u0626\u0649", "\u0626\u064a", "\u0628\u0631", "\u0628\u0632",
     "\u0628\u0645", "\u0628\u0646", "\u0628\u0649", "\u0628\u064a",
     "\u062a\u0631", "\u062a\u0632", "\u062a\u0645", "\u062a\u0646",
     "\u062a\u0649", "\u062a\u064a", "\u062b\u0631", "\u062b\u0632",
     "\u062b\u0645", "\u062b\u0646", "\u062b\u0649", "\u062b\u064a",
     "\u0641\u0649", "\u0641\u064a", "\u0642\u0649", "\u0642\u064a",
     "\u0643\u0627", "\u0643\u0644", "\u0643\u0645", "\u0643\u0649",
     "\u0643\u064a", "\u0644\u0645", "\u0644\u0649", "\u0644\u064a",
     "\u0645\u0627", "\u0645\u0645", "\u0646\u0631", "\u0646\u0632",
     "\u0646\u0645", "\u0646\u0646", "\u0646\u0649", "\u0646\u064a",
     "\u0649\u0670", "\u064a\u0631", "\u064a\u0632", "\u064a\u0645",
     "\u064a\u0646", "\u064a\u0649", "\u064a\u064a", "\u0626\u062c",
     "\u0626\u062d", "\u0626\u062e", "\u0626\u0645", "\u0626\u0647",
     "\u0628\u062c", "\u0628\u062d", "\u0628\u062e", "\u0628\u0645",
     "\u0628\u0647", "\u062a\u062c", "\u062a\u062d", "\u062a\u062e",
     "\u062a\u0645", "\u062a\u0647", "\u062b\u0645", "\u062c\u062d",
     "\u062c\u0645", "\u062d\u062c", "\u062d\u0645", "\u062e\u062c",
     "\u062e\u0645", "\u0633\u062c", "\u0633\u062d", "\u0633\u062e",
     "\u0633\u0645", "\u0635\u062d", "\u0635\u062e", "\u0635\u0645",
     "\u0636\u062c", "\u0636\u062d", "\u0636\u062e", "\u0636\u0645",
     "\u0637\u062d", "\u0638\u0645", "\u0639\u062c", "\u0639\u0645",
     "\u063a\u062c", "\u063a\u0645", "\u0641\u062c", "\u0641\u062d",
     "\u0641\u062e", "\u0641\u0645", "\u0642\u062d", "\u0642\u0645",
     "\u0643\u062c", "\u0643\u062d", "\u0643\u062e", "\u0643\u0644",
     "\u0643\u0645", "\u0644\u062c", "\u0644\u062d", "\u0644\u062e",
     "\u0644\u0645", "\u0644\u0647", "\u0645\u062c", "\u0645\u062d",
     "\u0645\u062e", "\u0645\u0645", "\u0646\u062c", "\u0646\u062d",
     "\u0646\u062e", "\u0646\u0645", "\u0646\u0647", "\u0647\u062c",
     "\u0647\u0645", "\u0647\u0670", "\u064a\u062c", "\u064a\u062d",
     "\u064a\u062e", "\u064a\u0645", "\u064a\u0647", "\u0626\u0645",
     "\u0626\u0647", "\u0628\u0645", "\u0628\u0647", "\u062a\u0645",
     "\u062a\u0647", "\u062b\u0645", "\u062b\u0647", "\u0633\u0645",
     "\u0633\u0647", "\u0634\u0645", "\u0634\u0647", "\u0643\u0644",
     "\u0643\u0645", "\u0644\u0645", "\u0646\u0645", "\u0646\u0647",
     "\u064a\u0645", "\u064a\u0647", "\u0640\u064e\u0651",
     "\u0640\u064f\u0651", "\u0640\u0650\u0651", "\u0637\u0649",
     "\u0637\u064a", "\u0639\u0649", "\u0639\u064a", "\u063a\u0649",
     "\u063a\u064a", "\u0633\u0649", "\u0633\u064a", "\u0634\u0649",
     "\u0634\u064a", "\u062d\u0649", "\u062d\u064a", "\u062c\u0649",
     "\u062c\u064a", "\u062e\u0649", "\u062e\u064a", "\u0635\u0649",
     "\u0635\u064a", "\u0636\u0649", "\u0636\u064a", "\u0634\u062c",
     "\u0634\u062d", "\u0634\u062e", "\u0634\u0645", "\u0634\u0631",
     "\u0633\u0631", "\u0635\u0631", "\u0636\u0631", "\u0637\u0649",
     "\u0637\u064a", "\u0639\u0649", "\u0639\u064a", "\u063a\u0649",
     "\u063a\u064a", "\u0633\u0649", "\u0633\u064a", "\u0634\u0649",
     "\u0634\u064a", "\u062d\u0649", "\u062d\u064a", "\u062c\u0649",
     "\u062c\u064a", "\u062e\u0649", "\u062e\u064a", "\u0635\u0649",
     "\u0635\u064a", "\u0636\u0649", "\u0636\u064a", "\u0634\u062c",
     "\u0634\u062d", "\u0634\u062e", "\u0634\u0645", "\u0634\u0631",
     "\u0633\u0631", "\u0635\u0631", "\u0636\u0631", "\u0634\u062c",
     "\u0634\u062d", "\u0634\u062e", "\u0634\u0645", "\u0633\u0647",
     "\u0634\u0647", "\u0637\u0645", "\u0633\u062c", "\u0633\u062d",
     "\u0633\u062e", "\u0634\u062c", "\u0634\u062d", "\u0634\u062e",
     "\u0637\u0645", "\u0638\u0645", "\u0627\u064b",
     "\u0627\u064b"]),
   (0xFD50,
    ["\u062a\u062c\u0645", "\u062a\u062d\u062c",
     "\u062a\u062d\u062c", "\u062a\u062d\u0645",
     "\u062a\u062e\u0645", "\u062a\u0645\u062c",
     "\u062a\u0645\u062d", "\u062a\u0645\u062e",
     "\u062c\u0645\u062d", "\u062c\u0645\u062d",
     "\u062d\u0645\u064a", "\u062d\u0645\u0649",
     "\u0633\u062d\u062c", "\u0633\u062c\u062d",
     "\u0633\u062c\u0649", "\u0633\u0645\u062d",
     "\u0633\u0645\u062d", "\u0633\u0645\u062c",
     "\u0633\u0645\u0645", "\u0633\u0645\u0645",
     "\u0635\u062d\u062d", "\u0635\u062d\u062d",
     "\u0635\u0645\u0645", "\u0634\u062d\u0645",
     "\u0634\u062d\u0645", "\u0634\u062c\u064a",
     "\u0634\u0645\u062e", "\u0634\u0645\u062e",
     "\u0634\u0645\u0645", "\u0634\u0645\u0645",
     "\u0636\u062d\u0649", "\u0636\u062e\u0645",
     "\u0636\u062e\u0645", "\u0637\u0645\u062d",
     "\u0637\u0645\u062d", "\u0637\u0645\u0645",
     "\u0637\u0645\u064a", "\u0639\u062c\u0645",
     "\u0639\u0645\u0645", "\u0639\u0645\u0645",
     "\u0639\u0645\u0649", "\u063a\u0645\u0645",
     "\u063a\u0645\u064a", "\u063a\u0645\u0649",
     "\u0641\u062e\u0645", "\u0641\u062e\u0645",
     "\u0642\u0645\u062d", "\u0642\u0645\u0645",
     "\u0644\u062d\u0645", "\u0644\u062d\u064a",
     "\u0644\u062d\u0649", "\u0644\u062c\u062c",
     "\u0644\u062c\u062c", "\u0644\u062e\u0645",
     "\u0644\u062e\u0645", "\u0644\u0645\u062d",
     "\u0644\u0645\u062d", "\u0645\u062d\u062c",
     "\u0645\u062d\u0645", "\u0645\u062d\u064a",
     "\u0645\u062c\u062d", "\u0645\u062c\u0645",
     "\u0645\u062e\u062c", "\u0645\u062e\u0645"]),
   (0xFD92,
    ["\u0645\u062c\u062e", "\u0647\u0645\u062c",
     "\u0647\u0645\u0645", "\u0646\u062d\u0645",
     "\u0646\u062d\u0649", "\u0646\u062c\u0645",
     "\u0646\u062c\u0645", "\u0646\u062c\u0649",
     "\u0646\u0645\u064a", "\u0646\u0645\u0649",
     "\u064a\u0645\u0645", "\u064a\u0645\u0645",
     "\u0628\u062e\u064a", "\u062a\u062c\u064a",
     "\u062a\u062c\u0649", "\u062a\u062e\u064a",
     "\u062a\u062e\u0649", "\u062a\u0645\u064a",
     "\u062a\u0645\u0649", "\u062c\u0645\u064a",
     "\u062c\u062d\u0649", "\u062c\u0645\u0649",
     "\u0633\u062e\u0649", "\u0635\u062d\u064a",
     "\u0634\u062d\u064a", "\u0636\u062d\u064a",
     "\u0644\u062c\u064a", "\u0644\u0645\u064a",
     "\u064a\u062d\u064a", "\u064a\u062c\u064a",
     "\u064a\u0645\u064a", "\u0645\u0645\u064a",
     "\u0642\u0645\u064a", "\u0646\u062d\u064a",
     "\u0642\u0645\u062d", "\u0644\u062d\u0645",
     "\u0639\u0645\u064a", "\u0643\u0645\u064a",
     "\u0646\u062c\u062d", "\u0645\u062e\u064a",
     "\u0644\u062c\u0645", "\u0643\u0645\u0645",
     "\u0644\u062c\u0645", "\u0646\u062c\u062d",
     "\u062c\u062d\u064a", "\u062d\u062c\u064a",
     "\u0645\u062c\u064a", "\u0641\u0645\u064a",
     "\u0628\u062d\u064a", "\u0643\u0645\u0645",
     "\u0639\u062c\u0645", "\u0635\u0645\u0645",
     "\u0633\u062e\u064a", "\u0646\u062c\u064a"]),
   (0xFDF0,
    ["\u0635\u0644\u06d2", "\u0642\u0644\u06d2",
     "\u0627\u0644\u0644\u0647", "\u0627\u0643\u0628\u0631",
     "\u0645\u062d\u0645\u062f", "\u0635\u0644\u0639\u0645",
     "\u0631\u0633\u0648\u0644", "\u0639\u0644\u064a\u0647",
     "\u0648\u0633\u0644\u0645", "\u0635\u0644\u0649"]),
   (0xFDFC, ["\u0631\u06cc\u0627\u0644"]), (0xFE10, [",", "、"]),
   (0xFE14, [";", "!"]), (0xFE17, ["〖", "〗"]),
   (0xFE31,
    ["—", "–", "_", "_", "(", ")", "\x7b", "\x7d", "〔", "〕", "【",
     "】", "《", "》", "〈", "〉"]),
   (0xFE4D, ["_", "_", "_", ",", "、"]), (0xFE54, [";"]),
   (0xFE57, ["!", "—", "(", ")", "\x7b", "\x7d", "〔", "〕"]),
   (0xFE60, ["&", "*", "+", "-", "<", ">", "="]), (0xFE69, ["$"]),
   (0xFE71, ["\u0640\u064b"]), (0xFE77, ["\u0640\u064e"]),
   (0xFE79, ["\u0640\u064f"]), (0xFE7B, ["\u0640\u0650"]),
   (0xFE7D, ["\u0640\u0651"]),
   (0xFE7F,
    ["\u0640\u0652", "\u0621", "\u0622", "\u0622", "\u0623",
     "\u0623", "\u0624", "\u0624", "\u0625", "\u0625", "\u0626",
     "\u0626", "\u0626", "\u0626", "\u0627", "\u0627", "\u0628",
     "\u0628", "\u0628", "\u0628", "\u0629", "\u0629", "\u062a",
     "\u062a", "\u062a", "\u062a", "\u062b", "\u062b", "\u062b",
     "\u062b", "\u062c", "\u062c", "\u062c", "\u062c", "\u062d",
     "\u062d", "\u062d", "\u062d", "\u062e", "\u062e", "\u062e",
     "\u062e", "\u062f", "\u062f", "\u0630", "\u0630", "\u0631",
     "\u0631", "\u0632", "\u0632", "\u0633", "\u0633", "\u0633",
     "\u0633", "\u0634", "\u0634", "\u0634", "\u0634", "\u0635",
     "\u0635", "\u0635", "\u0635", "\u0636", "\u0636", "\u0636",
     "\u0636", "\u0637", "\u0637", "\u0637", "\u0637", "\u0638",
     "\u0638", "\u0638", "\u0638", "\u0639", "\u0639", "\u0639",
     "\u0639", "\u063a", "\u063a", "\u063a", "\u063a", "\u0641",
     "\u0641", "\u0641", "\u0641", "\u0642", "\u0642", "\u0642",
     "\u0642", "\u0643", "\u0643", "\u0643", "\u0643", "\u0644",
     "\u0644", "\u0644", "\u0644", "\u0645", "\u0645", "\u0645",
     "\u0645", "\u0646", "\u0646", "\u0646", "\u0646", "\u0647",
     "\u0647", "\u0647", "\u0647", "\u0648", "\u0648", "\u0649",
     "\u0649", "\u064a", "\u064a", "\u064a", "\u064a",
     "\u0644\u0622", "\u0644\u0622", "\u0644\u0623", "\u0644\u0623",
     "\u0644\u0625", "\u0644\u0625", "\u0644\u0627",
     "\u0644\u0627"])]

/- Full and half widths and letters beyond the basic plane. -/
def widthRows : Unicode.Rows String :=
  [(0xFF01, ["!", "\""]), (0xFF04, ["$"]),
   (0xFF5D,
    ["\x7d", "~", "⦅", "⦆", ".", "「", "」", "、", "・", "ヲ", "ァ", "ィ",
     "ゥ", "ェ", "ォ", "ャ", "ュ", "ョ", "ッ", "ー", "ア", "イ", "ウ", "エ",
     "オ", "カ", "キ", "ク", "ケ", "コ", "サ", "シ", "ス", "セ", "ソ", "タ",
     "チ", "ツ", "テ", "ト"]),
   (0xFF8B, ["ヒ", "フ", "ヘ", "ホ"]), (0xFF94, ["ヤ", "ユ"]),
   (0xFF9C, ["ワ", "ン", "\u3099", "\u309a"]),
   (0xFFA1, ["ᄀ", "ᄁ", "ᆪ", "ᄂ", "ᆬ", "ᆭ", "ᄃ", "ᄄ", "ᄅ"]),
   (0xFFB0, ["ᄚ", "ᄆ", "ᄇ", "ᄈ", "ᄡ"]), (0xFFDA, ["ᅳ", "ᅴ", "ᅵ"]),
   (0xFFE0, ["¢", "£", "¬"]), (0xFFE4, ["¦", "¥", "₩"]),
   (0xFFE8, ["│"]), (0xFFED, ["■", "○"]),
   (0x10781, ["ː", "ˑ", "æ", "ʙ", "ɓ"]),
   (0x10787,
    ["ʣ", "ꭦ", "ʥ", "ʤ", "ɖ", "ɗ", "ᶑ", "ɘ", "ɞ", "ʩ", "ɤ", "ɢ",
     "ɠ", "ʛ", "ħ", "ʜ", "ɧ", "ʄ", "ʪ", "ʫ", "ɬ", "𝼄", "ꞎ", "ɮ",
     "𝼅", "ʎ", "𝼆", "ø", "ɶ", "ɷ", "q", "ɺ", "𝼈", "ɽ", "ɾ", "ʀ",
     "ʨ", "ʦ", "ꭧ", "ʧ", "ʈ", "ⱱ"]),
   (0x107B2, ["ʏ", "ʡ", "ʢ", "ʘ", "ǀ", "ǁ", "ǂ", "𝼊", "𝼞"]),
   (0x1D49C, ["a"]), (0x1D49E, ["c", "d"]), (0x1D4A2, ["g"]),
   (0x1D4A5, ["j", "k"]), (0x1D4BB, ["f"]), (0x1D504, ["a", "b"]),
   (0x1D538, ["a", "b"]), (0x1D546, ["o"]), (0x1D6A4, ["ı", "ȷ"]),
   (0x1D6B9, ["θ"]), (0x1D6C1, ["∇"]), (0x1D6D3, ["σ"]),
   (0x1D6DB, ["∂", "ε", "θ", "κ", "φ", "ρ", "π"]), (0x1D6F3, ["θ"]),
   (0x1D6FB, ["∇"]), (0x1D70D, ["σ"]),
   (0x1D715, ["∂", "ε", "θ", "κ", "φ", "ρ", "π"]), (0x1D72D, ["θ"]),
   (0x1D735, ["∇"]), (0x1D747, ["σ"]),
   (0x1D74F, ["∂", "ε", "θ", "κ", "φ", "ρ", "π"]), (0x1D767, ["θ"]),
   (0x1D76F, ["∇"]), (0x1D781, ["σ"]),
   (0x1D789, ["∂", "ε", "θ", "κ", "φ", "ρ", "π"]), (0x1D7A1, ["θ"]),
   (0x1D7A9, ["∇"]), (0x1D7BB, ["σ"]),
   (0x1D7C3, ["∂", "ε", "θ", "κ", "φ", "ρ", "π", "ϝ", "ϝ"]),
   (0x1E039, ["к", "л", "м"]),
   (0x1E047, ["ы", "э", "ю", "ꚉ", "ә", "і", "ј", "ө", "ү", "ӏ"]),
   (0x1E05A, ["к", "л", "о", "п", "с"]),
   (0x1E065, ["ъ", "ы", "ґ", "і", "ѕ", "џ", "ҫ", "ꙑ", "ұ"])]

/- Arabic letters in mathematical styles. -/
def styledArabicRows : Unicode.Rows String :=
  [(0x1EE00, ["\u0627", "\u0628", "\u062c", "\u062f"]),
   (0x1EE05, ["\u0648", "\u0632", "\u062d", "\u0637", "\u064a"]),
   (0x1EE0E,
    ["\u0633", "\u0639", "\u0641", "\u0635", "\u0642", "\u0631",
     "\u0634", "\u062a", "\u062b", "\u062e", "\u0630", "\u0636",
     "\u0638", "\u063a", "\u066e", "\u06ba", "\u06a1", "\u066f"]),
   (0x1EE21, ["\u0628", "\u062c"]), (0x1EE24, ["\u0647"]),
   (0x1EE27, ["\u062d"]), (0x1EE29, ["\u064a"]),
   (0x1EE2E, ["\u0633", "\u0639", "\u0641", "\u0635", "\u0642"]),
   (0x1EE34, ["\u0634", "\u062a", "\u062b", "\u062e"]),
   (0x1EE39, ["\u0636"]), (0x1EE3B, ["\u063a"]),
   (0x1EE42, ["\u062c"]), (0x1EE47, ["\u062d"]),
   (0x1EE49, ["\u064a"]), (0x1EE4B, ["\u0644"]),
   (0x1EE4D, ["\u0646", "\u0633", "\u0639"]),
   (0x1EE51, ["\u0635", "\u0642"]), (0x1EE54, ["\u0634"]),
   (0x1EE57, ["\u062e"]), (0x1EE59, ["\u0636"]),
   (0x1EE5B, ["\u063a"]), (0x1EE5D, ["\u06ba"]),
   (0x1EE5F, ["\u066f"]), (0x1EE61, ["\u0628", "\u062c"]),
   (0x1EE64, ["\u0647"]),
   (0x1EE67, ["\u062d", "\u0637", "\u064a", "\u0643"]),
   (0x1EE6C,
    ["\u0645", "\u0646", "\u0633", "\u0639", "\u0641", "\u0635",
     "\u0642"]),
   (0x1EE74, ["\u0634", "\u062a", "\u062b", "\u062e"]),
   (0x1EE79, ["\u0636", "\u0638", "\u063a", "\u066e"]),
   (0x1EE7E, ["\u06a1"]),
   (0x1EE80,
    ["\u0627", "\u0628", "\u062c", "\u062f", "\u0647", "\u0648",
     "\u0632", "\u062d", "\u0637", "\u064a"]),
   (0x1EE8B,
    ["\u0644", "\u0645", "\u0646", "\u0633", "\u0639", "\u0641",
     "\u0635", "\u0642", "\u0631", "\u0634", "\u062a", "\u062b",
     "\u062e", "\u0630", "\u0636", "\u0638", "\u063a"]),
   (0x1EEA1, ["\u0628", "\u062c", "\u062f"]),
   (0x1EEA5, ["\u0648", "\u0632", "\u062d", "\u0637", "\u064a"]),
   (0x1EEAB,
    ["\u0644", "\u0645", "\u0646", "\u0633", "\u0639", "\u0641",
     "\u0635", "\u0642", "\u0631", "\u0634", "\u062a", "\u062b",
     "\u062e", "\u0630", "\u0636", "\u0638", "\u063a"])]

/-
  Enclosed letters and digits, and ideographs beyond the
  basic plane.
-/
def enclosedRows : Unicode.Rows String :=
  [(0x1F101,
    ["0,", "1,", "2,", "3,", "4,", "5,", "6,", "7,", "8,", "9,"]),
   (0x1F110,
    ["(a)", "(b)", "(c)", "(d)", "(e)", "(f)", "(g)", "(h)", "(i)",
     "(j)", "(k)", "(l)", "(m)", "(n)", "(o)", "(p)", "(q)", "(r)",
     "(s)", "(t)", "(u)", "(v)", "(w)", "(x)", "(y)", "(z)", "〔s〕",
     "c", "r", "cd", "wz"]),
   (0x1F14A, ["hv", "mv", "sd", "ss", "ppv", "wc"]),
   (0x1F16A, ["mc", "md", "mr"]), (0x1F190, ["dj"]),
   (0x1F200, ["ほか", "ココ", "サ"]),
   (0x1F210,
    ["手", "字", "双", "デ", "二", "多", "解", "天", "交", "映", "無", "料",
     "前", "後", "再", "新", "初", "終", "生", "販", "声", "吹", "演", "投",
     "捕", "一", "三", "遊", "左", "中", "右", "指", "走", "打", "禁", "空",
     "合", "満", "有", "月", "申", "割", "営", "配"]),
   (0x1F240,
    ["〔本〕", "〔三〕", "〔二〕", "〔安〕", "〔点〕", "〔打〕", "〔盗〕", "〔勝〕",
     "〔敗〕"]),
   (0x1F250, ["得", "可"])]

/-
  The texts that single characters stand for, in ascending
  order.
-/
def foldedRows : Unicode.Rows String :=
  letterRows ++ signRows ++ squareRows ++ arabicRows ++ widthRows
    ++ styledArabicRows ++ enclosedRows

end SiteSearch.Domain
