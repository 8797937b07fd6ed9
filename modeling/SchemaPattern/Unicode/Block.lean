/-!
# Blocks

The blocks that XML Schema names, with the code points of each.  The three surrogate blocks are
known names of no characters.
-/

namespace SchemaPattern.Unicode

def blocks : List (String × List (Nat × Nat)) :=
  [("BasicLatin", [(0x0, 0x7F)]), ("Latin-1Supplement", [(0x80, 0xFF)]),
   ("LatinExtended-A", [(0x100, 0x17F)]), ("LatinExtended-B", [(0x180, 0x24F)]),
   ("IPAExtensions", [(0x250, 0x2AF)]), ("SpacingModifierLetters", [(0x2B0, 0x2FF)]),
   ("CombiningDiacriticalMarks", [(0x300, 0x36F)]), ("Greek", [(0x370, 0x3FF)]),
   ("Cyrillic", [(0x400, 0x4FF)]), ("Armenian", [(0x530, 0x58F)]), ("Hebrew", [(0x590, 0x5FF)]),
   ("Arabic", [(0x600, 0x6FF)]), ("Syriac", [(0x700, 0x74F)]), ("Thaana", [(0x780, 0x7BF)]),
   ("Devanagari", [(0x900, 0x97F)]), ("Bengali", [(0x980, 0x9FF)]),
   ("Gurmukhi", [(0xA00, 0xA7F)]), ("Gujarati", [(0xA80, 0xAFF)]), ("Oriya", [(0xB00, 0xB7F)]),
   ("Tamil", [(0xB80, 0xBFF)]), ("Telugu", [(0xC00, 0xC7F)]), ("Kannada", [(0xC80, 0xCFF)]),
   ("Malayalam", [(0xD00, 0xD7F)]), ("Sinhala", [(0xD80, 0xDFF)]), ("Thai", [(0xE00, 0xE7F)]),
   ("Lao", [(0xE80, 0xEFF)]), ("Tibetan", [(0xF00, 0xFFF)]), ("Myanmar", [(0x1000, 0x109F)]),
   ("Georgian", [(0x10A0, 0x10FF)]), ("HangulJamo", [(0x1100, 0x11FF)]),
   ("Ethiopic", [(0x1200, 0x137F)]), ("Cherokee", [(0x13A0, 0x13FF)]),
   ("UnifiedCanadianAboriginalSyllabics", [(0x1400, 0x167F)]), ("Ogham", [(0x1680, 0x169F)]),
   ("Runic", [(0x16A0, 0x16FF)]), ("Khmer", [(0x1780, 0x17FF)]),
   ("Mongolian", [(0x1800, 0x18AF)]), ("LatinExtendedAdditional", [(0x1E00, 0x1EFF)]),
   ("GreekExtended", [(0x1F00, 0x1FFF)]), ("GeneralPunctuation", [(0x2000, 0x206F)]),
   ("SuperscriptsandSubscripts", [(0x2070, 0x209F)]), ("CurrencySymbols", [(0x20A0, 0x20CF)]),
   ("CombiningMarksforSymbols", [(0x20D0, 0x20FF)]), ("LetterlikeSymbols", [(0x2100, 0x214F)]),
   ("NumberForms", [(0x2150, 0x218F)]), ("Arrows", [(0x2190, 0x21FF)]),
   ("MathematicalOperators", [(0x2200, 0x22FF)]), ("MiscellaneousTechnical", [(0x2300, 0x23FF)]),
   ("ControlPictures", [(0x2400, 0x243F)]), ("OpticalCharacterRecognition", [(0x2440, 0x245F)]),
   ("EnclosedAlphanumerics", [(0x2460, 0x24FF)]), ("BoxDrawing", [(0x2500, 0x257F)]),
   ("BlockElements", [(0x2580, 0x259F)]), ("GeometricShapes", [(0x25A0, 0x25FF)]),
   ("MiscellaneousSymbols", [(0x2600, 0x26FF)]), ("Dingbats", [(0x2700, 0x27BF)]),
   ("BraillePatterns", [(0x2800, 0x28FF)]), ("CJKRadicalsSupplement", [(0x2E80, 0x2EFF)]),
   ("KangxiRadicals", [(0x2F00, 0x2FDF)]),
   ("IdeographicDescriptionCharacters", [(0x2FF0, 0x2FFF)]),
   ("CJKSymbolsandPunctuation", [(0x3000, 0x303F)]), ("Hiragana", [(0x3040, 0x309F)]),
   ("Katakana", [(0x30A0, 0x30FF)]), ("Bopomofo", [(0x3100, 0x312F)]),
   ("HangulCompatibilityJamo", [(0x3130, 0x318F)]), ("Kanbun", [(0x3190, 0x319F)]),
   ("BopomofoExtended", [(0x31A0, 0x31BF)]), ("EnclosedCJKLettersandMonths", [(0x3200, 0x32FF)]),
   ("CJKCompatibility", [(0x3300, 0x33FF)]),
   ("CJKUnifiedIdeographsExtensionA", [(0x3400, 0x4DB5)]),
   ("CJKUnifiedIdeographs", [(0x4E00, 0x9FFF)]), ("YiSyllables", [(0xA000, 0xA48F)]),
   ("YiRadicals", [(0xA490, 0xA4CF)]), ("HangulSyllables", [(0xAC00, 0xD7A3)]),
   ("HighSurrogates", []), ("HighPrivateUseSurrogates", []), ("LowSurrogates", []),
   ("PrivateUse", [(0xE000, 0xF8FF), (0xF0000, 0xFFFFD), (0x100000, 0x10FFFD)]),
   ("CJKCompatibilityIdeographs", [(0xF900, 0xFAFF)]),
   ("AlphabeticPresentationForms", [(0xFB00, 0xFB4F)]),
   ("ArabicPresentationForms-A", [(0xFB50, 0xFDFF)]), ("CombiningHalfMarks", [(0xFE20, 0xFE2F)]),
   ("CJKCompatibilityForms", [(0xFE30, 0xFE4F)]), ("SmallFormVariants", [(0xFE50, 0xFE6F)]),
   ("ArabicPresentationForms-B", [(0xFE70, 0xFEFE)]),
   ("Specials", [(0xFEFF, 0xFEFF), (0xFFF0, 0xFFFD)]),
   ("HalfwidthandFullwidthForms", [(0xFF00, 0xFFEF)]), ("OldItalic", [(0x10300, 0x1032F)]),
   ("Gothic", [(0x10330, 0x1034F)]), ("Deseret", [(0x10400, 0x1044F)]),
   ("ByzantineMusicalSymbols", [(0x1D000, 0x1D0FF)]), ("MusicalSymbols", [(0x1D100, 0x1D1FF)]),
   ("MathematicalAlphanumericSymbols", [(0x1D400, 0x1D7FF)]),
   ("CJKUnifiedIdeographsExtensionB", [(0x20000, 0x2A6D6)]),
   ("CJKCompatibilityIdeographsSupplement", [(0x2F800, 0x2FA1F)]), ("Tags", [(0xE0000, 0xE007F)])]

end SchemaPattern.Unicode
