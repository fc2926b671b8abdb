/-
  Untrack.Unicode.Names.From1E00 — names of the characters from 1E00 up to 24FF.
-/

namespace Untrack.Unicode.Names

def from1E00 : List String :=
  ["=1E00 0LATIN CAPITAL LETTER A WITH RING BELOW,1SMALL LETTER A WITH RING BELOW",
    "1CAPITAL LETTER B WITH DOT ABOVE,1SMALL LETTER B WITH DOT ABOVE,1CAPITAL LETTER B WITH DOT BELOW",
    "1SMALL LETTER B WITH DOT BELOW,1CAPITAL LETTER B WITH LINE BELOW,1SMALL LETTER B WITH LINE BELOW",
    "1CAPITAL LETTER C WITH CEDILLA AND ACUTE,1SMALL LETTER C WITH CEDILLA AND ACUTE",
    "1CAPITAL LETTER D WITH DOT ABOVE,1SMALL LETTER D WITH DOT ABOVE,1CAPITAL LETTER D WITH DOT BELOW",
    "1SMALL LETTER D WITH DOT BELOW,1CAPITAL LETTER D WITH LINE BELOW,1SMALL LETTER D WITH LINE BELOW",
    "1CAPITAL LETTER D WITH CEDILLA,1SMALL LETTER D WITH CEDILLA,1CAPITAL LETTER D WITH CIRCUMFLEX BELOW",
    "1SMALL LETTER D WITH CIRCUMFLEX BELOW,1CAPITAL LETTER E WITH MACRON AND GRAVE",
    "1SMALL LETTER E WITH MACRON AND GRAVE,1CAPITAL LETTER E WITH MACRON AND ACUTE",
    "1SMALL LETTER E WITH MACRON AND ACUTE,1CAPITAL LETTER E WITH CIRCUMFLEX BELOW",
    "1SMALL LETTER E WITH CIRCUMFLEX BELOW,1CAPITAL LETTER E WITH TILDE BELOW",
    "1SMALL LETTER E WITH TILDE BELOW,1CAPITAL LETTER E WITH CEDILLA AND BREVE",
    "1SMALL LETTER E WITH CEDILLA AND BREVE,1CAPITAL LETTER F WITH DOT ABOVE,1SMALL LETTER F WITH DOT ABOVE",
    "1CAPITAL LETTER G WITH MACRON,1SMALL LETTER G WITH MACRON,1CAPITAL LETTER H WITH DOT ABOVE",
    "1SMALL LETTER H WITH DOT ABOVE,1CAPITAL LETTER H WITH DOT BELOW,1SMALL LETTER H WITH DOT BELOW",
    "1CAPITAL LETTER H WITH DIAERESIS,1SMALL LETTER H WITH DIAERESIS,1CAPITAL LETTER H WITH CEDILLA",
    "1SMALL LETTER H WITH CEDILLA,1CAPITAL LETTER H WITH BREVE BELOW,1SMALL LETTER H WITH BREVE BELOW",
    "1CAPITAL LETTER I WITH TILDE BELOW,1SMALL LETTER I WITH TILDE BELOW",
    "1CAPITAL LETTER I WITH DIAERESIS AND ACUTE,1SMALL LETTER I WITH DIAERESIS AND ACUTE",
    "1CAPITAL LETTER K WITH ACUTE,1SMALL LETTER K WITH ACUTE,1CAPITAL LETTER K WITH DOT BELOW",
    "1SMALL LETTER K WITH DOT BELOW,1CAPITAL LETTER K WITH LINE BELOW,1SMALL LETTER K WITH LINE BELOW",
    "1CAPITAL LETTER L WITH DOT BELOW,1SMALL LETTER L WITH DOT BELOW",
    "1CAPITAL LETTER L WITH DOT BELOW AND MACRON,1SMALL LETTER L WITH DOT BELOW AND MACRON",
    "1CAPITAL LETTER L WITH LINE BELOW,1SMALL LETTER L WITH LINE BELOW",
    "1CAPITAL LETTER L WITH CIRCUMFLEX BELOW,1SMALL LETTER L WITH CIRCUMFLEX BELOW",
    "1CAPITAL LETTER M WITH ACUTE,1SMALL LETTER M WITH ACUTE,1CAPITAL LETTER M WITH DOT ABOVE",
    "1SMALL LETTER M WITH DOT ABOVE,1CAPITAL LETTER M WITH DOT BELOW,1SMALL LETTER M WITH DOT BELOW",
    "1CAPITAL LETTER N WITH DOT ABOVE,1SMALL LETTER N WITH DOT ABOVE,1CAPITAL LETTER N WITH DOT BELOW",
    "1SMALL LETTER N WITH DOT BELOW,1CAPITAL LETTER N WITH LINE BELOW,1SMALL LETTER N WITH LINE BELOW",
    "1CAPITAL LETTER N WITH CIRCUMFLEX BELOW,1SMALL LETTER N WITH CIRCUMFLEX BELOW",
    "1CAPITAL LETTER O WITH TILDE AND ACUTE,1SMALL LETTER O WITH TILDE AND ACUTE",
    "1CAPITAL LETTER O WITH TILDE AND DIAERESIS,1SMALL LETTER O WITH TILDE AND DIAERESIS",
    "1CAPITAL LETTER O WITH MACRON AND GRAVE,1SMALL LETTER O WITH MACRON AND GRAVE",
    "1CAPITAL LETTER O WITH MACRON AND ACUTE,1SMALL LETTER O WITH MACRON AND ACUTE",
    "1CAPITAL LETTER P WITH ACUTE,1SMALL LETTER P WITH ACUTE,1CAPITAL LETTER P WITH DOT ABOVE",
    "1SMALL LETTER P WITH DOT ABOVE,1CAPITAL LETTER R WITH DOT ABOVE,1SMALL LETTER R WITH DOT ABOVE",
    "1CAPITAL LETTER R WITH DOT BELOW,1SMALL LETTER R WITH DOT BELOW",
    "1CAPITAL LETTER R WITH DOT BELOW AND MACRON,1SMALL LETTER R WITH DOT BELOW AND MACRON",
    "1CAPITAL LETTER R WITH LINE BELOW,1SMALL LETTER R WITH LINE BELOW,1CAPITAL LETTER S WITH DOT ABOVE",
    "1SMALL LETTER S WITH DOT ABOVE,1CAPITAL LETTER S WITH DOT BELOW,1SMALL LETTER S WITH DOT BELOW",
    "1CAPITAL LETTER S WITH ACUTE AND DOT ABOVE,1SMALL LETTER S WITH ACUTE AND DOT ABOVE",
    "1CAPITAL LETTER S WITH CARON AND DOT ABOVE,1SMALL LETTER S WITH CARON AND DOT ABOVE",
    "1CAPITAL LETTER S WITH DOT BELOW AND DOT ABOVE,1SMALL LETTER S WITH DOT BELOW AND DOT ABOVE",
    "1CAPITAL LETTER T WITH DOT ABOVE,1SMALL LETTER T WITH DOT ABOVE,1CAPITAL LETTER T WITH DOT BELOW",
    "1SMALL LETTER T WITH DOT BELOW,1CAPITAL LETTER T WITH LINE BELOW,1SMALL LETTER T WITH LINE BELOW",
    "1CAPITAL LETTER T WITH CIRCUMFLEX BELOW,1SMALL LETTER T WITH CIRCUMFLEX BELOW",
    "1CAPITAL LETTER U WITH DIAERESIS BELOW,1SMALL LETTER U WITH DIAERESIS BELOW",
    "1CAPITAL LETTER U WITH TILDE BELOW,1SMALL LETTER U WITH TILDE BELOW",
    "1CAPITAL LETTER U WITH CIRCUMFLEX BELOW,1SMALL LETTER U WITH CIRCUMFLEX BELOW",
    "1CAPITAL LETTER U WITH TILDE AND ACUTE,1SMALL LETTER U WITH TILDE AND ACUTE",
    "1CAPITAL LETTER U WITH MACRON AND DIAERESIS,1SMALL LETTER U WITH MACRON AND DIAERESIS",
    "1CAPITAL LETTER V WITH TILDE,1SMALL LETTER V WITH TILDE,1CAPITAL LETTER V WITH DOT BELOW",
    "1SMALL LETTER V WITH DOT BELOW,1CAPITAL LETTER W WITH GRAVE,1SMALL LETTER W WITH GRAVE",
    "1CAPITAL LETTER W WITH ACUTE,1SMALL LETTER W WITH ACUTE,1CAPITAL LETTER W WITH DIAERESIS",
    "1SMALL LETTER W WITH DIAERESIS,1CAPITAL LETTER W WITH DOT ABOVE,1SMALL LETTER W WITH DOT ABOVE",
    "1CAPITAL LETTER W WITH DOT BELOW,1SMALL LETTER W WITH DOT BELOW,1CAPITAL LETTER X WITH DOT ABOVE",
    "1SMALL LETTER X WITH DOT ABOVE,1CAPITAL LETTER X WITH DIAERESIS,1SMALL LETTER X WITH DIAERESIS",
    "1CAPITAL LETTER Y WITH DOT ABOVE,1SMALL LETTER Y WITH DOT ABOVE,1CAPITAL LETTER Z WITH CIRCUMFLEX",
    "1SMALL LETTER Z WITH CIRCUMFLEX,1CAPITAL LETTER Z WITH DOT BELOW,1SMALL LETTER Z WITH DOT BELOW",
    "1CAPITAL LETTER Z WITH LINE BELOW,1SMALL LETTER Z WITH LINE BELOW,3H WITH LINE BELOW,3T WITH DIAERESIS",
    "3W WITH RING ABOVE,3Y WITH RING ABOVE,3A WITH RIGHT HALF RING,3LONG S WITH DOT ABOVE,6DIAGONAL STROKE",
    "6HIGH STROKE,1CAPITAL LETTER SHARP S,1SMALL LETTER DELTA,1CAPITAL LETTER A WITH DOT BELOW",
    "1SMALL LETTER A WITH DOT BELOW,1CAPITAL LETTER A WITH HOOK ABOVE,1SMALL LETTER A WITH HOOK ABOVE",
    "1CAPITAL LETTER A WITH CIRCUMFLEX AND ACUTE,1SMALL LETTER A WITH CIRCUMFLEX AND ACUTE",
    "1CAPITAL LETTER A WITH CIRCUMFLEX AND GRAVE,1SMALL LETTER A WITH CIRCUMFLEX AND GRAVE",
    "1CAPITAL LETTER A WITH CIRCUMFLEX AND HOOK ABOVE,1SMALL LETTER A WITH CIRCUMFLEX AND HOOK ABOVE",
    "1CAPITAL LETTER A WITH CIRCUMFLEX AND TILDE,1SMALL LETTER A WITH CIRCUMFLEX AND TILDE",
    "1CAPITAL LETTER A WITH CIRCUMFLEX AND DOT BELOW,1SMALL LETTER A WITH CIRCUMFLEX AND DOT BELOW",
    "1CAPITAL LETTER A WITH BREVE AND ACUTE,1SMALL LETTER A WITH BREVE AND ACUTE",
    "1CAPITAL LETTER A WITH BREVE AND GRAVE,1SMALL LETTER A WITH BREVE AND GRAVE",
    "1CAPITAL LETTER A WITH BREVE AND HOOK ABOVE,1SMALL LETTER A WITH BREVE AND HOOK ABOVE",
    "1CAPITAL LETTER A WITH BREVE AND TILDE,1SMALL LETTER A WITH BREVE AND TILDE",
    "1CAPITAL LETTER A WITH BREVE AND DOT BELOW,1SMALL LETTER A WITH BREVE AND DOT BELOW",
    "1CAPITAL LETTER E WITH DOT BELOW,1SMALL LETTER E WITH DOT BELOW,1CAPITAL LETTER E WITH HOOK ABOVE",
    "1SMALL LETTER E WITH HOOK ABOVE,1CAPITAL LETTER E WITH TILDE,1SMALL LETTER E WITH TILDE",
    "1CAPITAL LETTER E WITH CIRCUMFLEX AND ACUTE,1SMALL LETTER E WITH CIRCUMFLEX AND ACUTE",
    "1CAPITAL LETTER E WITH CIRCUMFLEX AND GRAVE,1SMALL LETTER E WITH CIRCUMFLEX AND GRAVE",
    "1CAPITAL LETTER E WITH CIRCUMFLEX AND HOOK ABOVE,1SMALL LETTER E WITH CIRCUMFLEX AND HOOK ABOVE",
    "1CAPITAL LETTER E WITH CIRCUMFLEX AND TILDE,1SMALL LETTER E WITH CIRCUMFLEX AND TILDE",
    "1CAPITAL LETTER E WITH CIRCUMFLEX AND DOT BELOW,1SMALL LETTER E WITH CIRCUMFLEX AND DOT BELOW",
    "1CAPITAL LETTER I WITH HOOK ABOVE,1SMALL LETTER I WITH HOOK ABOVE,1CAPITAL LETTER I WITH DOT BELOW",
    "1SMALL LETTER I WITH DOT BELOW,1CAPITAL LETTER O WITH DOT BELOW,1SMALL LETTER O WITH DOT BELOW",
    "1CAPITAL LETTER O WITH HOOK ABOVE,1SMALL LETTER O WITH HOOK ABOVE",
    "1CAPITAL LETTER O WITH CIRCUMFLEX AND ACUTE,1SMALL LETTER O WITH CIRCUMFLEX AND ACUTE",
    "1CAPITAL LETTER O WITH CIRCUMFLEX AND GRAVE,1SMALL LETTER O WITH CIRCUMFLEX AND GRAVE",
    "1CAPITAL LETTER O WITH CIRCUMFLEX AND HOOK ABOVE,1SMALL LETTER O WITH CIRCUMFLEX AND HOOK ABOVE",
    "1CAPITAL LETTER O WITH CIRCUMFLEX AND TILDE,1SMALL LETTER O WITH CIRCUMFLEX AND TILDE",
    "1CAPITAL LETTER O WITH CIRCUMFLEX AND DOT BELOW,1SMALL LETTER O WITH CIRCUMFLEX AND DOT BELOW",
    "1CAPITAL LETTER O WITH HORN AND ACUTE,1SMALL LETTER O WITH HORN AND ACUTE",
    "1CAPITAL LETTER O WITH HORN AND GRAVE,1SMALL LETTER O WITH HORN AND GRAVE",
    "1CAPITAL LETTER O WITH HORN AND HOOK ABOVE,1SMALL LETTER O WITH HORN AND HOOK ABOVE",
    "1CAPITAL LETTER O WITH HORN AND TILDE,1SMALL LETTER O WITH HORN AND TILDE",
    "1CAPITAL LETTER O WITH HORN AND DOT BELOW,1SMALL LETTER O WITH HORN AND DOT BELOW",
    "1CAPITAL LETTER U WITH DOT BELOW,1SMALL LETTER U WITH DOT BELOW,1CAPITAL LETTER U WITH HOOK ABOVE",
    "1SMALL LETTER U WITH HOOK ABOVE,1CAPITAL LETTER U WITH HORN AND ACUTE",
    "1SMALL LETTER U WITH HORN AND ACUTE,1CAPITAL LETTER U WITH HORN AND GRAVE",
    "1SMALL LETTER U WITH HORN AND GRAVE,1CAPITAL LETTER U WITH HORN AND HOOK ABOVE",
    "1SMALL LETTER U WITH HORN AND HOOK ABOVE,1CAPITAL LETTER U WITH HORN AND TILDE",
    "1SMALL LETTER U WITH HORN AND TILDE,1CAPITAL LETTER U WITH HORN AND DOT BELOW",
    "1SMALL LETTER U WITH HORN AND DOT BELOW,1CAPITAL LETTER Y WITH GRAVE,1SMALL LETTER Y WITH GRAVE",
    "1CAPITAL LETTER Y WITH DOT BELOW,1SMALL LETTER Y WITH DOT BELOW,1CAPITAL LETTER Y WITH HOOK ABOVE",
    "1SMALL LETTER Y WITH HOOK ABOVE,1CAPITAL LETTER Y WITH TILDE,1SMALL LETTER Y WITH TILDE",
    "1CAPITAL LETTER MIDDLE-WELSH LL,1SMALL LETTER MIDDLE-WELSH LL,1CAPITAL LETTER MIDDLE-WELSH V",
    "1SMALL LETTER MIDDLE-WELSH V,1CAPITAL LETTER Y WITH LOOP,1SMALL LETTER Y WITH LOOP",
    "0GREEK SMALL LETTER ALPHA WITH PSILI,5DASIA,5PSILI AND VARIA,5DASIA AND VARIA,5PSILI AND OXIA",
    "5DASIA AND OXIA,5PSILI AND PERISPOMENI,5DASIA AND PERISPOMENI,1CAPITAL LETTER ALPHA WITH PSILI,5DASIA",
    "5PSILI AND VARIA,5DASIA AND VARIA,5PSILI AND OXIA,5DASIA AND OXIA,5PSILI AND PERISPOMENI",
    "5DASIA AND PERISPOMENI,1SMALL LETTER EPSILON WITH PSILI,5DASIA,5PSILI AND VARIA,5DASIA AND VARIA",
    "5PSILI AND OXIA,5DASIA AND OXIA,=1F18 1CAPITAL LETTER EPSILON WITH PSILI,5DASIA,5PSILI AND VARIA",
    "5DASIA AND VARIA,5PSILI AND OXIA,5DASIA AND OXIA,=1F20 1SMALL LETTER ETA WITH PSILI,5DASIA",
    "5PSILI AND VARIA,5DASIA AND VARIA,5PSILI AND OXIA,5DASIA AND OXIA,5PSILI AND PERISPOMENI",
    "5DASIA AND PERISPOMENI,1CAPITAL LETTER ETA WITH PSILI,5DASIA,5PSILI AND VARIA,5DASIA AND VARIA",
    "5PSILI AND OXIA,5DASIA AND OXIA,5PSILI AND PERISPOMENI,5DASIA AND PERISPOMENI",
    "1SMALL LETTER IOTA WITH PSILI,5DASIA,5PSILI AND VARIA,5DASIA AND VARIA,5PSILI AND OXIA,5DASIA AND OXIA",
    "5PSILI AND PERISPOMENI,5DASIA AND PERISPOMENI,1CAPITAL LETTER IOTA WITH PSILI,5DASIA,5PSILI AND VARIA",
    "5DASIA AND VARIA,5PSILI AND OXIA,5DASIA AND OXIA,5PSILI AND PERISPOMENI,5DASIA AND PERISPOMENI",
    "1SMALL LETTER OMICRON WITH PSILI,5DASIA,5PSILI AND VARIA,5DASIA AND VARIA,5PSILI AND OXIA",
    "5DASIA AND OXIA,=1F48 1CAPITAL LETTER OMICRON WITH PSILI,5DASIA,5PSILI AND VARIA,5DASIA AND VARIA",
    "5PSILI AND OXIA,5DASIA AND OXIA,=1F50 1SMALL LETTER UPSILON WITH PSILI,5DASIA,5PSILI AND VARIA",
    "5DASIA AND VARIA,5PSILI AND OXIA,5DASIA AND OXIA,5PSILI AND PERISPOMENI,5DASIA AND PERISPOMENI",
    "=1F59 1CAPITAL LETTER UPSILON WITH DASIA,=1F5B 6AND VARIA,=1F5D 7OXIA,=1F5F 7PERISPOMENI",
    "1SMALL LETTER OMEGA WITH PSILI,5DASIA,5PSILI AND VARIA,5DASIA AND VARIA,5PSILI AND OXIA",
    "5DASIA AND OXIA,5PSILI AND PERISPOMENI,5DASIA AND PERISPOMENI,1CAPITAL LETTER OMEGA WITH PSILI,5DASIA",
    "5PSILI AND VARIA,5DASIA AND VARIA,5PSILI AND OXIA,5DASIA AND OXIA,5PSILI AND PERISPOMENI",
    "5DASIA AND PERISPOMENI,1SMALL LETTER ALPHA WITH VARIA,5OXIA,3EPSILON WITH VARIA,5OXIA,3ETA WITH VARIA",
    "5OXIA,3IOTA WITH VARIA,5OXIA,3OMICRON WITH VARIA,5OXIA,3UPSILON WITH VARIA,5OXIA,3OMEGA WITH VARIA",
    "5OXIA,=1F80 3ALPHA WITH PSILI AND YPOGEGRAMMENI,5DASIA AND YPOGEGRAMMENI",
    "5PSILI AND VARIA AND YPOGEGRAMMENI,5DASIA AND VARIA AND YPOGEGRAMMENI",
    "5PSILI AND OXIA AND YPOGEGRAMMENI,5DASIA AND OXIA AND YPOGEGRAMMENI",
    "5PSILI AND PERISPOMENI AND YPOGEGRAMMENI,5DASIA AND PERISPOMENI AND YPOGEGRAMMENI",
    "1CAPITAL LETTER ALPHA WITH PSILI AND PROSGEGRAMMENI,5DASIA AND PROSGEGRAMMENI",
    "5PSILI AND VARIA AND PROSGEGRAMMENI,5DASIA AND VARIA AND PROSGEGRAMMENI",
    "5PSILI AND OXIA AND PROSGEGRAMMENI,5DASIA AND OXIA AND PROSGEGRAMMENI",
    "5PSILI AND PERISPOMENI AND PROSGEGRAMMENI,5DASIA AND PERISPOMENI AND PROSGEGRAMMENI",
    "1SMALL LETTER ETA WITH PSILI AND YPOGEGRAMMENI,5DASIA AND YPOGEGRAMMENI",
    "5PSILI AND VARIA AND YPOGEGRAMMENI,5DASIA AND VARIA AND YPOGEGRAMMENI",
    "5PSILI AND OXIA AND YPOGEGRAMMENI,5DASIA AND OXIA AND YPOGEGRAMMENI",
    "5PSILI AND PERISPOMENI AND YPOGEGRAMMENI,5DASIA AND PERISPOMENI AND YPOGEGRAMMENI",
    "1CAPITAL LETTER ETA WITH PSILI AND PROSGEGRAMMENI,5DASIA AND PROSGEGRAMMENI",
    "5PSILI AND VARIA AND PROSGEGRAMMENI,5DASIA AND VARIA AND PROSGEGRAMMENI",
    "5PSILI AND OXIA AND PROSGEGRAMMENI,5DASIA AND OXIA AND PROSGEGRAMMENI",
    "5PSILI AND PERISPOMENI AND PROSGEGRAMMENI,5DASIA AND PERISPOMENI AND PROSGEGRAMMENI",
    "1SMALL LETTER OMEGA WITH PSILI AND YPOGEGRAMMENI,5DASIA AND YPOGEGRAMMENI",
    "5PSILI AND VARIA AND YPOGEGRAMMENI,5DASIA AND VARIA AND YPOGEGRAMMENI",
    "5PSILI AND OXIA AND YPOGEGRAMMENI,5DASIA AND OXIA AND YPOGEGRAMMENI",
    "5PSILI AND PERISPOMENI AND YPOGEGRAMMENI,5DASIA AND PERISPOMENI AND YPOGEGRAMMENI",
    "1CAPITAL LETTER OMEGA WITH PSILI AND PROSGEGRAMMENI,5DASIA AND PROSGEGRAMMENI",
    "5PSILI AND VARIA AND PROSGEGRAMMENI,5DASIA AND VARIA AND PROSGEGRAMMENI",
    "5PSILI AND OXIA AND PROSGEGRAMMENI,5DASIA AND OXIA AND PROSGEGRAMMENI",
    "5PSILI AND PERISPOMENI AND PROSGEGRAMMENI,5DASIA AND PERISPOMENI AND PROSGEGRAMMENI",
    "1SMALL LETTER ALPHA WITH VRACHY,5MACRON,5VARIA AND YPOGEGRAMMENI,5YPOGEGRAMMENI",
    "5OXIA AND YPOGEGRAMMENI,=1FB6 5PERISPOMENI,6AND YPOGEGRAMMENI,1CAPITAL LETTER ALPHA WITH VRACHY",
    "5MACRON,5VARIA,5OXIA,5PROSGEGRAMMENI,1KORONIS,1PROSGEGRAMMENI,1PSILI,1PERISPOMENI",
    "1DIALYTIKA AND PERISPOMENI,1SMALL LETTER ETA WITH VARIA AND YPOGEGRAMMENI,5YPOGEGRAMMENI",
    "5OXIA AND YPOGEGRAMMENI,=1FC6 5PERISPOMENI,6AND YPOGEGRAMMENI,1CAPITAL LETTER EPSILON WITH VARIA,5OXIA",
    "3ETA WITH VARIA,5OXIA,5PROSGEGRAMMENI,1PSILI AND VARIA,3OXIA,3PERISPOMENI",
    "1SMALL LETTER IOTA WITH VRACHY,5MACRON,5DIALYTIKA AND VARIA,7OXIA,=1FD6 5PERISPOMENI",
    "5DIALYTIKA AND PERISPOMENI,1CAPITAL LETTER IOTA WITH VRACHY,5MACRON,5VARIA,5OXIA",
    "=1FDD 1DASIA AND VARIA,3OXIA,3PERISPOMENI,1SMALL LETTER UPSILON WITH VRACHY,5MACRON",
    "5DIALYTIKA AND VARIA,7OXIA,3RHO WITH PSILI,5DASIA,3UPSILON WITH PERISPOMENI,5DIALYTIKA AND PERISPOMENI",
    "1CAPITAL LETTER UPSILON WITH VRACHY,5MACRON,5VARIA,5OXIA,3RHO WITH DASIA,1DIALYTIKA AND VARIA,3OXIA",
    "1VARIA,=1FF2 1SMALL LETTER OMEGA WITH VARIA AND YPOGEGRAMMENI,5YPOGEGRAMMENI,5OXIA AND YPOGEGRAMMENI",
    "=1FF6 5PERISPOMENI,6AND YPOGEGRAMMENI,1CAPITAL LETTER OMICRON WITH VARIA,5OXIA,3OMEGA WITH VARIA,5OXIA",
    "5PROSGEGRAMMENI,1OXIA,1DASIA,=2000 0EN QUAD,0EM QUAD,0EN SPACE,0EM SPACE,0THREE-PER-EM SPACE",
    "0FOUR-PER-EM SPACE,0SIX-PER-EM SPACE,0FIGURE SPACE,0PUNCTUATION SPACE,0THIN SPACE,0HAIR SPACE",
    "0ZERO WIDTH SPACE,2NON-JOINER,2JOINER,0LEFT-TO-RIGHT MARK,0RIGHT-TO-LEFT MARK,0HYPHEN",
    "0NON-BREAKING HYPHEN,0FIGURE DASH,0EN DASH,0EM DASH,0HORIZONTAL BAR,0DOUBLE VERTICAL LINE,1LOW LINE",
    "0LEFT SINGLE QUOTATION MARK,0RIGHT SINGLE QUOTATION MARK,0SINGLE LOW-9 QUOTATION MARK",
    "1HIGH-REVERSED-9 QUOTATION MARK,0LEFT DOUBLE QUOTATION MARK,0RIGHT DOUBLE QUOTATION MARK",
    "0DOUBLE LOW-9 QUOTATION MARK,1HIGH-REVERSED-9 QUOTATION MARK,0DAGGER,0DOUBLE DAGGER,0BULLET",
    "0TRIANGULAR BULLET,0ONE DOT LEADER,0TWO DOT LEADER,0HORIZONTAL ELLIPSIS,0HYPHENATION POINT",
    "0LINE SEPARATOR,0PARAGRAPH SEPARATOR,0LEFT-TO-RIGHT EMBEDDING,0RIGHT-TO-LEFT EMBEDDING",
    "0POP DIRECTIONAL FORMATTING,0LEFT-TO-RIGHT OVERRIDE,0RIGHT-TO-LEFT OVERRIDE,0NARROW NO-BREAK SPACE",
    "0PER MILLE SIGN,1TEN THOUSAND SIGN,0PRIME,0DOUBLE PRIME,0TRIPLE PRIME,0REVERSED PRIME,1DOUBLE PRIME",
    "1TRIPLE PRIME,0CARET,0SINGLE LEFT-POINTING ANGLE QUOTATION MARK,1RIGHT-POINTING ANGLE QUOTATION MARK",
    "0REFERENCE MARK,0DOUBLE EXCLAMATION MARK,0INTERROBANG,0OVERLINE,0UNDERTIE,0CHARACTER TIE",
    "0CARET INSERTION POINT,0ASTERISM,0HYPHEN BULLET,0FRACTION SLASH,0LEFT SQUARE BRACKET WITH QUILL",
    "0RIGHT SQUARE BRACKET WITH QUILL,0DOUBLE QUESTION MARK,0QUESTION EXCLAMATION MARK",
    "0EXCLAMATION QUESTION MARK,0TIRONIAN SIGN ET,0REVERSED PILCROW SIGN,0BLACK LEFTWARDS BULLET",
    "1RIGHTWARDS BULLET,0LOW ASTERISK,0REVERSED SEMICOLON,0CLOSE UP,0TWO ASTERISKS ALIGNED VERTICALLY",
    "0COMMERCIAL MINUS SIGN,0SWUNG DASH,0INVERTED UNDERTIE,0FLOWER PUNCTUATION MARK,0THREE DOT PUNCTUATION",
    "0QUADRUPLE PRIME,0FOUR DOT PUNCTUATION,0FIVE DOT PUNCTUATION,0TWO DOT PUNCTUATION,0FOUR DOT MARK",
    "0DOTTED CROSS,0TRICOLON,0VERTICAL FOUR DOTS,0MEDIUM MATHEMATICAL SPACE,0WORD JOINER",
    "0FUNCTION APPLICATION,0INVISIBLE TIMES,1SEPARATOR,1PLUS,=2066 0LEFT-TO-RIGHT ISOLATE",
    "0RIGHT-TO-LEFT ISOLATE,0FIRST STRONG ISOLATE,0POP DIRECTIONAL ISOLATE,0INHIBIT SYMMETRIC SWAPPING",
    "0ACTIVATE SYMMETRIC SWAPPING,0INHIBIT ARABIC FORM SHAPING,0ACTIVATE ARABIC FORM SHAPING",
    "0NATIONAL DIGIT SHAPES,0NOMINAL DIGIT SHAPES,0SUPERSCRIPT ZERO,1LATIN SMALL LETTER I,=2074 1FOUR,1FIVE",
    "1SIX,1SEVEN,1EIGHT,1NINE,1PLUS SIGN,1MINUS,1EQUALS SIGN,1LEFT PARENTHESIS,1RIGHT PARENTHESIS",
    "1LATIN SMALL LETTER N,0SUBSCRIPT ZERO,1ONE,1TWO,1THREE,1FOUR,1FIVE,1SIX,1SEVEN,1EIGHT,1NINE,1PLUS SIGN",
    "1MINUS,1EQUALS SIGN,1LEFT PARENTHESIS,1RIGHT PARENTHESIS,=2090 0LATIN SUBSCRIPT SMALL LETTER A,4E,4O",
    "4X,4SCHWA,4H,4K,4L,4M,4N,4P,4S,4T,=20A0 0EURO-CURRENCY SIGN,0COLON SIGN,0CRUZEIRO SIGN",
    "0FRENCH FRANC SIGN,0LIRA SIGN,0MILL SIGN,0NAIRA SIGN,0PESETA SIGN,0RUPEE SIGN,0WON SIGN",
    "0NEW SHEQEL SIGN,0DONG SIGN,0EURO SIGN,0KIP SIGN,0TUGRIK SIGN,0DRACHMA SIGN,0GERMAN PENNY SIGN",
    "0PESO SIGN,0GUARANI SIGN,0AUSTRAL SIGN,0HRYVNIA SIGN,0CEDI SIGN,0LIVRE TOURNOIS SIGN,0SPESMILO SIGN",
    "0TENGE SIGN,0INDIAN RUPEE SIGN,0TURKISH LIRA SIGN,0NORDIC MARK SIGN,0MANAT SIGN,0RUBLE SIGN,0LARI SIGN",
    "0BITCOIN SIGN,0SOM SIGN,=20D0 0COMBINING LEFT HARPOON ABOVE,1RIGHT HARPOON ABOVE",
    "1LONG VERTICAL LINE OVERLAY,1SHORT VERTICAL LINE OVERLAY,1ANTICLOCKWISE ARROW ABOVE",
    "1CLOCKWISE ARROW ABOVE,1LEFT ARROW ABOVE,1RIGHT ARROW ABOVE,1RING OVERLAY,1CLOCKWISE RING OVERLAY",
    "1ANTICLOCKWISE RING OVERLAY,1THREE DOTS ABOVE,1FOUR DOTS ABOVE,1ENCLOSING CIRCLE,2SQUARE,2DIAMOND",
    "2CIRCLE BACKSLASH,1LEFT RIGHT ARROW ABOVE,1ENCLOSING SCREEN,2KEYCAP,2UPWARD POINTING TRIANGLE",
    "1REVERSE SOLIDUS OVERLAY,1DOUBLE VERTICAL STROKE OVERLAY,1ANNUITY SYMBOL,1TRIPLE UNDERDOT",
    "1WIDE BRIDGE ABOVE,1LEFTWARDS ARROW OVERLAY,1LONG DOUBLE SOLIDUS OVERLAY",
    "1RIGHTWARDS HARPOON WITH BARB DOWNWARDS,1LEFTWARDS HARPOON WITH BARB DOWNWARDS,1LEFT ARROW BELOW",
    "1RIGHT ARROW BELOW,1ASTERISK ABOVE,=2100 0ACCOUNT OF,0ADDRESSED TO THE SUBJECT",
    "0DOUBLE-STRUCK CAPITAL C,0DEGREE CELSIUS,0CENTRE LINE SYMBOL,0CARE OF,0CADA UNA,0EULER CONSTANT",
    "0SCRUPLE,0DEGREE FAHRENHEIT,0SCRIPT SMALL G,1CAPITAL H,0BLACK-LETTER CAPITAL H",
    "0DOUBLE-STRUCK CAPITAL H,0PLANCK CONSTANT,2OVER TWO PI,0SCRIPT CAPITAL I,0BLACK-LETTER CAPITAL I",
    "0SCRIPT CAPITAL L,1SMALL L,0L B BAR SYMBOL,0DOUBLE-STRUCK CAPITAL N,0NUMERO SIGN",
    "0SOUND RECORDING COPYRIGHT,0SCRIPT CAPITAL P,0DOUBLE-STRUCK CAPITAL P,2Q,0SCRIPT CAPITAL R",
    "0BLACK-LETTER CAPITAL R,0DOUBLE-STRUCK CAPITAL R,0PRESCRIPTION TAKE,0RESPONSE,0SERVICE MARK",
    "0TELEPHONE SIGN,0TRADE MARK SIGN,0VERSICLE,0DOUBLE-STRUCK CAPITAL Z,0OUNCE SIGN,0OHM SIGN",
    "0INVERTED OHM SIGN,0BLACK-LETTER CAPITAL Z,0TURNED GREEK SMALL LETTER IOTA,0KELVIN SIGN,0ANGSTROM SIGN",
    "0SCRIPT CAPITAL B,0BLACK-LETTER CAPITAL C,0ESTIMATED SYMBOL,0SCRIPT SMALL E,1CAPITAL E,2F",
    "0TURNED CAPITAL F,0SCRIPT CAPITAL M,1SMALL O,0ALEF SYMBOL,0BET SYMBOL,0GIMEL SYMBOL,0DALET SYMBOL",
    "0INFORMATION SOURCE,0ROTATED CAPITAL Q,0FACSIMILE SIGN,0DOUBLE-STRUCK SMALL PI,2GAMMA,1CAPITAL GAMMA",
    "2PI,1N-ARY SUMMATION,0TURNED SANS-SERIF CAPITAL G,3L,0REVERSED SANS-SERIF CAPITAL L",
    "0TURNED SANS-SERIF CAPITAL Y,0DOUBLE-STRUCK ITALIC CAPITAL D,2SMALL D,3E,3I,3J,0PROPERTY LINE",
    "0TURNED AMPERSAND,0PER SIGN,0AKTIESELSKAB,0TURNED SMALL F,0SYMBOL FOR SAMARITAN SOURCE",
    "0VULGAR FRACTION ONE SEVENTH,3NINTH,3TENTH,3THIRD,2TWO THIRDS,2ONE FIFTH,2TWO FIFTHS,2THREE FIFTHS",
    "2FOUR FIFTHS,2ONE SIXTH,2FIVE SIXTHS,2ONE EIGHTH,2THREE EIGHTHS,2FIVE EIGHTHS,2SEVEN EIGHTHS",
    "0FRACTION NUMERATOR ONE,0ROMAN NUMERAL ONE,2TWO,2THREE,2FOUR,2FIVE,2SIX,2SEVEN,2EIGHT,2NINE,2TEN",
    "2ELEVEN,2TWELVE,2FIFTY,2ONE HUNDRED,2FIVE HUNDRED,2ONE THOUSAND,0SMALL ROMAN NUMERAL ONE,3TWO,3THREE",
    "3FOUR,3FIVE,3SIX,3SEVEN,3EIGHT,3NINE,3TEN,3ELEVEN,3TWELVE,3FIFTY,3ONE HUNDRED,3FIVE HUNDRED",
    "3ONE THOUSAND,0ROMAN NUMERAL ONE THOUSAND C D,2FIVE THOUSAND,2TEN THOUSAND,2REVERSED ONE HUNDRED",
    "0LATIN SMALL LETTER REVERSED C,0ROMAN NUMERAL SIX LATE FORM,2FIFTY EARLY FORM,3THOUSAND",
    "2ONE HUNDRED THOUSAND,0VULGAR FRACTION ZERO THIRDS,0TURNED DIGIT TWO,2THREE,=2190 0LEFTWARDS ARROW",
    "0UPWARDS ARROW,0RIGHTWARDS ARROW,0DOWNWARDS ARROW,0LEFT RIGHT ARROW,0UP DOWN ARROW,0NORTH WEST ARROW",
    "1EAST ARROW,0SOUTH EAST ARROW,1WEST ARROW,0LEFTWARDS ARROW WITH STROKE,0RIGHTWARDS ARROW WITH STROKE",
    "0LEFTWARDS WAVE ARROW,0RIGHTWARDS WAVE ARROW,0LEFTWARDS TWO HEADED ARROW,0UPWARDS TWO HEADED ARROW",
    "0RIGHTWARDS TWO HEADED ARROW,0DOWNWARDS TWO HEADED ARROW,0LEFTWARDS ARROW WITH TAIL",
    "0RIGHTWARDS ARROW WITH TAIL,0LEFTWARDS ARROW FROM BAR,0UPWARDS ARROW FROM BAR",
    "0RIGHTWARDS ARROW FROM BAR,0DOWNWARDS ARROW FROM BAR,0UP DOWN ARROW WITH BASE",
    "0LEFTWARDS ARROW WITH HOOK,0RIGHTWARDS ARROW WITH HOOK,0LEFTWARDS ARROW WITH LOOP",
    "0RIGHTWARDS ARROW WITH LOOP,0LEFT RIGHT WAVE ARROW,2ARROW WITH STROKE,0DOWNWARDS ZIGZAG ARROW",
    "0UPWARDS ARROW WITH TIP LEFTWARDS,4RIGHTWARDS,0DOWNWARDS ARROW WITH TIP LEFTWARDS,4RIGHTWARDS",
    "0RIGHTWARDS ARROW WITH CORNER DOWNWARDS,0DOWNWARDS ARROW WITH CORNER LEFTWARDS",
    "0ANTICLOCKWISE TOP SEMICIRCLE ARROW,0CLOCKWISE TOP SEMICIRCLE ARROW,0NORTH WEST ARROW TO LONG BAR",
    "0LEFTWARDS ARROW TO BAR OVER RIGHTWARDS ARROW TO BAR,0ANTICLOCKWISE OPEN CIRCLE ARROW",
    "0CLOCKWISE OPEN CIRCLE ARROW,0LEFTWARDS HARPOON WITH BARB UPWARDS,4DOWNWARDS",
    "0UPWARDS HARPOON WITH BARB RIGHTWARDS,4LEFTWARDS,0RIGHTWARDS HARPOON WITH BARB UPWARDS,4DOWNWARDS",
    "0DOWNWARDS HARPOON WITH BARB RIGHTWARDS,4LEFTWARDS,0RIGHTWARDS ARROW OVER LEFTWARDS ARROW",
    "0UPWARDS ARROW LEFTWARDS OF DOWNWARDS ARROW,0LEFTWARDS ARROW OVER RIGHTWARDS ARROW,1PAIRED ARROWS",
    "0UPWARDS PAIRED ARROWS,0RIGHTWARDS PAIRED ARROWS,0DOWNWARDS PAIRED ARROWS",
    "0LEFTWARDS HARPOON OVER RIGHTWARDS HARPOON,0RIGHTWARDS HARPOON OVER LEFTWARDS HARPOON",
    "0LEFTWARDS DOUBLE ARROW WITH STROKE,0LEFT RIGHT DOUBLE ARROW WITH STROKE",
    "0RIGHTWARDS DOUBLE ARROW WITH STROKE,0LEFTWARDS DOUBLE ARROW,0UPWARDS DOUBLE ARROW",
    "0RIGHTWARDS DOUBLE ARROW,0DOWNWARDS DOUBLE ARROW,0LEFT RIGHT DOUBLE ARROW,0UP DOWN DOUBLE ARROW",
    "0NORTH WEST DOUBLE ARROW,1EAST DOUBLE ARROW,0SOUTH EAST DOUBLE ARROW,1WEST DOUBLE ARROW",
    "0LEFTWARDS TRIPLE ARROW,0RIGHTWARDS TRIPLE ARROW,0LEFTWARDS SQUIGGLE ARROW,0RIGHTWARDS SQUIGGLE ARROW",
    "0UPWARDS ARROW WITH DOUBLE STROKE,0DOWNWARDS ARROW WITH DOUBLE STROKE,0LEFTWARDS DASHED ARROW",
    "0UPWARDS DASHED ARROW,0RIGHTWARDS DASHED ARROW,0DOWNWARDS DASHED ARROW,0LEFTWARDS ARROW TO BAR",
    "0RIGHTWARDS ARROW TO BAR,0LEFTWARDS WHITE ARROW,0UPWARDS WHITE ARROW,0RIGHTWARDS WHITE ARROW",
    "0DOWNWARDS WHITE ARROW,0UPWARDS WHITE ARROW FROM BAR,3ON PEDESTAL,5WITH HORIZONTAL BAR,6VERTICAL BAR",
    "2DOUBLE ARROW,4ON PEDESTAL,0RIGHTWARDS WHITE ARROW FROM WALL,0NORTH WEST ARROW TO CORNER",
    "0SOUTH EAST ARROW TO CORNER,0UP DOWN WHITE ARROW,0RIGHT ARROW WITH SMALL CIRCLE",
    "0DOWNWARDS ARROW LEFTWARDS OF UPWARDS ARROW,0THREE RIGHTWARDS ARROWS",
    "0LEFTWARDS ARROW WITH VERTICAL STROKE,0RIGHTWARDS ARROW WITH VERTICAL STROKE",
    "0LEFT RIGHT ARROW WITH VERTICAL STROKE,0LEFTWARDS ARROW WITH DOUBLE VERTICAL STROKE",
    "0RIGHTWARDS ARROW WITH DOUBLE VERTICAL STROKE,0LEFT RIGHT ARROW WITH DOUBLE VERTICAL STROKE",
    "0LEFTWARDS OPEN-HEADED ARROW,0RIGHTWARDS OPEN-HEADED ARROW,0LEFT RIGHT OPEN-HEADED ARROW,0FOR ALL",
    "0COMPLEMENT,0PARTIAL DIFFERENTIAL,0THERE EXISTS,1DOES NOT EXIST,0EMPTY SET,0INCREMENT,0NABLA",
    "0ELEMENT OF,0NOT AN ELEMENT OF,0SMALL ELEMENT OF,0CONTAINS AS MEMBER,0DOES NOT CONTAIN AS MEMBER",
    "0SMALL CONTAINS AS MEMBER,0END OF PROOF,0N-ARY PRODUCT,1COPRODUCT,1SUMMATION,0MINUS SIGN",
    "0MINUS-OR-PLUS SIGN,0DOT PLUS,0DIVISION SLASH,0SET MINUS,0ASTERISK OPERATOR,0RING OPERATOR",
    "0BULLET OPERATOR,0SQUARE ROOT,0CUBE ROOT,0FOURTH ROOT,0PROPORTIONAL TO,0INFINITY,0RIGHT ANGLE,0ANGLE",
    "0MEASURED ANGLE,0SPHERICAL ANGLE,0DIVIDES,0DOES NOT DIVIDE,0PARALLEL TO,0NOT PARALLEL TO,0LOGICAL AND",
    "1OR,0INTERSECTION,0UNION,0INTEGRAL,0DOUBLE INTEGRAL,0TRIPLE INTEGRAL,0CONTOUR INTEGRAL",
    "0SURFACE INTEGRAL,0VOLUME INTEGRAL,0CLOCKWISE INTEGRAL,1CONTOUR INTEGRAL",
    "0ANTICLOCKWISE CONTOUR INTEGRAL,0THEREFORE,0BECAUSE,0RATIO,0PROPORTION,0DOT MINUS,0EXCESS",
    "0GEOMETRIC PROPORTION,0HOMOTHETIC,0TILDE OPERATOR,0REVERSED TILDE,0INVERTED LAZY S,0SINE WAVE",
    "0WREATH PRODUCT,0NOT TILDE,0MINUS TILDE,0ASYMPTOTICALLY EQUAL TO,0NOT ASYMPTOTICALLY EQUAL TO",
    "0APPROXIMATELY EQUAL TO,1BUT NOT ACTUALLY EQUAL TO,0NEITHER APPROXIMATELY NOR ACTUALLY EQUAL TO",
    "0ALMOST EQUAL TO,0NOT ALMOST EQUAL TO,0ALMOST EQUAL OR EQUAL TO,0TRIPLE TILDE,0ALL EQUAL TO",
    "0EQUIVALENT TO,0GEOMETRICALLY EQUIVALENT TO,0DIFFERENCE BETWEEN,0APPROACHES THE LIMIT",
    "0GEOMETRICALLY EQUAL TO,0APPROXIMATELY EQUAL TO OR THE IMAGE OF,0IMAGE OF OR APPROXIMATELY EQUAL TO",
    "0COLON EQUALS,0EQUALS COLON,0RING IN EQUAL TO,1EQUAL TO,0CORRESPONDS TO,0ESTIMATES,0EQUIANGULAR TO",
    "0STAR EQUALS,0DELTA EQUAL TO,0EQUAL TO BY DEFINITION,0MEASURED BY,0QUESTIONED EQUAL TO,0NOT EQUAL TO",
    "0IDENTICAL TO,0NOT IDENTICAL TO,0STRICTLY EQUIVALENT TO,0LESS-THAN OR EQUAL TO",
    "0GREATER-THAN OR EQUAL TO,0LESS-THAN OVER EQUAL TO,0GREATER-THAN OVER EQUAL TO",
    "0LESS-THAN BUT NOT EQUAL TO,0GREATER-THAN BUT NOT EQUAL TO,0MUCH LESS-THAN,1GREATER-THAN,0BETWEEN",
    "0NOT EQUIVALENT TO,1LESS-THAN,1GREATER-THAN,0NEITHER LESS-THAN NOR EQUAL TO,1GREATER-THAN NOR EQUAL TO",
    "0LESS-THAN OR EQUIVALENT TO,0GREATER-THAN OR EQUIVALENT TO,0NEITHER LESS-THAN NOR EQUIVALENT TO",
    "1GREATER-THAN NOR EQUIVALENT TO,0LESS-THAN OR GREATER-THAN,0GREATER-THAN OR LESS-THAN",
    "0NEITHER LESS-THAN NOR GREATER-THAN,1GREATER-THAN NOR LESS-THAN,0PRECEDES,0SUCCEEDS",
    "0PRECEDES OR EQUAL TO,0SUCCEEDS OR EQUAL TO,0PRECEDES OR EQUIVALENT TO,0SUCCEEDS OR EQUIVALENT TO",
    "0DOES NOT PRECEDE,2SUCCEED,0SUBSET OF,0SUPERSET OF,0NOT A SUBSET OF,2SUPERSET OF",
    "0SUBSET OF OR EQUAL TO,0SUPERSET OF OR EQUAL TO,0NEITHER A SUBSET OF NOR EQUAL TO",
    "2SUPERSET OF NOR EQUAL TO,0SUBSET OF WITH NOT EQUAL TO,0SUPERSET OF WITH NOT EQUAL TO,0MULTISET",
    "1MULTIPLICATION,1UNION,0SQUARE IMAGE OF,1ORIGINAL OF,1IMAGE OF OR EQUAL TO,1ORIGINAL OF OR EQUAL TO",
    "1CAP,1CUP,0CIRCLED PLUS,1MINUS,1TIMES,1DIVISION SLASH,1DOT OPERATOR,1RING OPERATOR,1ASTERISK OPERATOR",
    "1EQUALS,1DASH,0SQUARED PLUS,1MINUS,1TIMES,1DOT OPERATOR,0RIGHT TACK,0LEFT TACK,0DOWN TACK,0UP TACK",
    "0ASSERTION,0MODELS,0TRUE,0FORCES,0TRIPLE VERTICAL BAR RIGHT TURNSTILE",
    "0DOUBLE VERTICAL BAR DOUBLE RIGHT TURNSTILE,0DOES NOT PROVE,0NOT TRUE,0DOES NOT FORCE",
    "0NEGATED DOUBLE VERTICAL BAR DOUBLE RIGHT TURNSTILE,0PRECEDES UNDER RELATION,0SUCCEEDS UNDER RELATION",
    "0NORMAL SUBGROUP OF,0CONTAINS AS NORMAL SUBGROUP,0NORMAL SUBGROUP OF OR EQUAL TO",
    "0CONTAINS AS NORMAL SUBGROUP OR EQUAL TO,0ORIGINAL OF,0IMAGE OF,0MULTIMAP,0HERMITIAN CONJUGATE MATRIX",
    "0INTERCALATE,0XOR,0NAND,0NOR,0RIGHT ANGLE WITH ARC,1TRIANGLE,0N-ARY LOGICAL AND,2OR,1INTERSECTION",
    "1UNION,0DIAMOND OPERATOR,0DOT OPERATOR,0STAR OPERATOR,0DIVISION TIMES,0BOWTIE",
    "0LEFT NORMAL FACTOR SEMIDIRECT PRODUCT,0RIGHT NORMAL FACTOR SEMIDIRECT PRODUCT",
    "0LEFT SEMIDIRECT PRODUCT,0RIGHT SEMIDIRECT PRODUCT,0REVERSED TILDE EQUALS,0CURLY LOGICAL OR,2AND",
    "0DOUBLE SUBSET,1SUPERSET,1INTERSECTION,1UNION,0PITCHFORK,0EQUAL AND PARALLEL TO,0LESS-THAN WITH DOT",
    "0GREATER-THAN WITH DOT,0VERY MUCH LESS-THAN,2GREATER-THAN,0LESS-THAN EQUAL TO OR GREATER-THAN",
    "0GREATER-THAN EQUAL TO OR LESS-THAN,0EQUAL TO OR LESS-THAN,3GREATER-THAN,3PRECEDES,3SUCCEEDS",
    "0DOES NOT PRECEDE OR EQUAL,2SUCCEED OR EQUAL,0NOT SQUARE IMAGE OF OR EQUAL TO,2ORIGINAL OF OR EQUAL TO",
    "0SQUARE IMAGE OF OR NOT EQUAL TO,1ORIGINAL OF OR NOT EQUAL TO,0LESS-THAN BUT NOT EQUIVALENT TO",
    "0GREATER-THAN BUT NOT EQUIVALENT TO,0PRECEDES BUT NOT EQUIVALENT TO,0SUCCEEDS BUT NOT EQUIVALENT TO",
    "0NOT NORMAL SUBGROUP OF,0DOES NOT CONTAIN AS NORMAL SUBGROUP,0NOT NORMAL SUBGROUP OF OR EQUAL TO",
    "0DOES NOT CONTAIN AS NORMAL SUBGROUP OR EQUAL,0VERTICAL ELLIPSIS,0MIDLINE HORIZONTAL ELLIPSIS",
    "0UP RIGHT DIAGONAL ELLIPSIS,0DOWN RIGHT DIAGONAL ELLIPSIS,0ELEMENT OF WITH LONG HORIZONTAL STROKE",
    "3VERTICAL BAR AT END OF HORIZONTAL STROKE",
    "0SMALL ELEMENT OF WITH VERTICAL BAR AT END OF HORIZONTAL STROKE,0ELEMENT OF WITH DOT ABOVE,3OVERBAR",
    "0SMALL ELEMENT OF WITH OVERBAR,0ELEMENT OF WITH UNDERBAR,3TWO HORIZONTAL STROKES",
    "0CONTAINS WITH LONG HORIZONTAL STROKE,2VERTICAL BAR AT END OF HORIZONTAL STROKE",
    "0SMALL CONTAINS WITH VERTICAL BAR AT END OF HORIZONTAL STROKE,0CONTAINS WITH OVERBAR",
    "0SMALL CONTAINS WITH OVERBAR,0Z NOTATION BAG MEMBERSHIP,0DIAMETER SIGN,0ELECTRIC ARROW,0HOUSE",
    "0UP ARROWHEAD,0DOWN ARROWHEAD,0PROJECTIVE,0PERSPECTIVE,0WAVY LINE,0LEFT CEILING,0RIGHT CEILING",
    "0LEFT FLOOR,0RIGHT FLOOR,0BOTTOM RIGHT CROP,1LEFT CROP,0TOP RIGHT CROP,1LEFT CROP,0REVERSED NOT SIGN",
    "0SQUARE LOZENGE,0ARC,0SEGMENT,0SECTOR,0TELEPHONE RECORDER,0POSITION INDICATOR,0VIEWDATA SQUARE",
    "0PLACE OF INTEREST SIGN,0TURNED NOT SIGN,0WATCH,0HOURGLASS,0TOP LEFT CORNER,1RIGHT CORNER",
    "0BOTTOM LEFT CORNER,1RIGHT CORNER,0TOP HALF INTEGRAL,0BOTTOM HALF INTEGRAL,0FROWN,0SMILE",
    "0UP ARROWHEAD BETWEEN TWO HORIZONTAL BARS,0OPTION KEY,0ERASE TO THE RIGHT,0X IN A RECTANGLE BOX",
    "0KEYBOARD,0LEFT-POINTING ANGLE BRACKET,0RIGHT-POINTING ANGLE BRACKET,0ERASE TO THE LEFT,0BENZENE RING",
    "0CYLINDRICITY,0ALL AROUND-PROFILE,0SYMMETRY,0TOTAL RUNOUT,0DIMENSION ORIGIN,0CONICAL TAPER,0SLOPE",
    "0COUNTERBORE,0COUNTERSINK,0APL FUNCTIONAL SYMBOL I-BEAM,3SQUISH QUAD,3QUAD EQUAL,4DIVIDE,4DIAMOND,4JOT",
    "4CIRCLE,3CIRCLE STILE,4JOT,3SLASH BAR,3BACKSLASH BAR,3QUAD SLASH,4BACKSLASH,4LESS-THAN,4GREATER-THAN",
    "3LEFTWARDS VANE,3RIGHTWARDS VANE,3QUAD LEFTWARDS ARROW,4RIGHTWARDS ARROW,3CIRCLE BACKSLASH",
    "3DOWN TACK UNDERBAR,3DELTA STILE,3QUAD DOWN CARET,4DELTA,3DOWN TACK JOT,3UPWARDS VANE",
    "3QUAD UPWARDS ARROW,3UP TACK OVERBAR,3DEL STILE,3QUAD UP CARET,4DEL,3UP TACK JOT,3DOWNWARDS VANE",
    "3QUAD DOWNWARDS ARROW,3QUOTE UNDERBAR,3DELTA UNDERBAR,3DIAMOND UNDERBAR,3JOT UNDERBAR,3CIRCLE UNDERBAR",
    "3UP SHOE JOT,3QUOTE QUAD,3CIRCLE STAR,3QUAD COLON,3UP TACK DIAERESIS,3DEL DIAERESIS,3STAR DIAERESIS",
    "3JOT DIAERESIS,3CIRCLE DIAERESIS,3DOWN SHOE STILE,3LEFT SHOE STILE,3TILDE DIAERESIS",
    "3GREATER-THAN DIAERESIS,3COMMA BAR,3DEL TILDE,3ZILDE,3STILE TILDE,3SEMICOLON UNDERBAR,3QUAD NOT EQUAL",
    "4QUESTION,3DOWN CARET TILDE,3UP CARET TILDE,3IOTA,3RHO,3OMEGA,3ALPHA UNDERBAR,3EPSILON UNDERBAR",
    "3IOTA UNDERBAR,3OMEGA UNDERBAR,3ALPHA,0NOT CHECK MARK,0RIGHT ANGLE WITH DOWNWARDS ZIGZAG ARROW",
    "0SHOULDERED OPEN BOX,0BELL SYMBOL,0VERTICAL LINE WITH MIDDLE DOT,0INSERTION SYMBOL",
    "0CONTINUOUS UNDERLINE SYMBOL,0DISCONTINUOUS UNDERLINE SYMBOL,0EMPHASIS SYMBOL,0COMPOSITION SYMBOL",
    "0WHITE SQUARE WITH CENTRE VERTICAL LINE,0ENTER SYMBOL,0ALTERNATIVE KEY SYMBOL,0HELM SYMBOL",
    "0CIRCLED HORIZONTAL BAR WITH NOTCH,1TRIANGLE DOWN,0BROKEN CIRCLE WITH NORTHWEST ARROW,0UNDO SYMBOL",
    "0MONOSTABLE SYMBOL,0HYSTERESIS SYMBOL,0OPEN-CIRCUIT-OUTPUT H-TYPE SYMBOL,1L-TYPE SYMBOL",
    "0PASSIVE-PULL-DOWN-OUTPUT SYMBOL,0PASSIVE-PULL-UP-OUTPUT SYMBOL,0DIRECT CURRENT SYMBOL FORM TWO",
    "0SOFTWARE-FUNCTION SYMBOL,0APL FUNCTIONAL SYMBOL QUAD,0DECIMAL SEPARATOR KEY SYMBOL,0PREVIOUS PAGE",
    "0NEXT PAGE,0PRINT SCREEN SYMBOL,0CLEAR SCREEN SYMBOL,0LEFT PARENTHESIS UPPER HOOK,2EXTENSION",
    "2LOWER HOOK,0RIGHT PARENTHESIS UPPER HOOK,2EXTENSION,2LOWER HOOK,0LEFT SQUARE BRACKET UPPER CORNER",
    "3EXTENSION,3LOWER CORNER,0RIGHT SQUARE BRACKET UPPER CORNER,3EXTENSION,3LOWER CORNER",
    "0LEFT CURLY BRACKET UPPER HOOK,3MIDDLE PIECE,3LOWER HOOK,0CURLY BRACKET EXTENSION",
    "0RIGHT CURLY BRACKET UPPER HOOK,3MIDDLE PIECE,3LOWER HOOK,0INTEGRAL EXTENSION",
    "0HORIZONTAL LINE EXTENSION,0UPPER LEFT OR LOWER RIGHT CURLY BRACKET SECTION",
    "1RIGHT OR LOWER LEFT CURLY BRACKET SECTION,0SUMMATION TOP,1BOTTOM,0TOP SQUARE BRACKET",
    "0BOTTOM SQUARE BRACKET,3OVER TOP SQUARE BRACKET,0RADICAL SYMBOL BOTTOM,0LEFT VERTICAL BOX LINE",
    "0RIGHT VERTICAL BOX LINE,0HORIZONTAL SCAN LINE-1,2LINE-3,2LINE-7,2LINE-9",
    "0DENTISTRY SYMBOL LIGHT VERTICAL AND TOP RIGHT,5BOTTOM RIGHT,4WITH CIRCLE",
    "3DOWN AND HORIZONTAL WITH CIRCLE,3UP AND HORIZONTAL WITH CIRCLE,3VERTICAL WITH TRIANGLE",
    "3DOWN AND HORIZONTAL WITH TRIANGLE,3UP AND HORIZONTAL WITH TRIANGLE,3VERTICAL AND WAVE",
    "3DOWN AND HORIZONTAL WITH WAVE,3UP AND HORIZONTAL WITH WAVE,3DOWN AND HORIZONTAL,3UP AND HORIZONTAL",
    "3VERTICAL AND TOP LEFT,5BOTTOM LEFT,0SQUARE FOOT,0RETURN SYMBOL,0EJECT SYMBOL,0VERTICAL LINE EXTENSION",
    "0METRICAL BREVE,1LONG OVER SHORT,1SHORT OVER LONG,1LONG OVER TWO SHORTS,1TWO SHORTS OVER LONG,3JOINED",
    "1TRISEME,1TETRASEME,1PENTASEME,0EARTH GROUND,0FUSE,0TOP PARENTHESIS,0BOTTOM PARENTHESIS",
    "0TOP CURLY BRACKET,0BOTTOM CURLY BRACKET,0TOP TORTOISE SHELL BRACKET,0BOTTOM TORTOISE SHELL BRACKET",
    "0WHITE TRAPEZIUM,0BENZENE RING WITH CIRCLE,0STRAIGHTNESS,0FLATNESS,0AC CURRENT",
    "0ELECTRICAL INTERSECTION,0DECIMAL EXPONENT SYMBOL,0BLACK RIGHT-POINTING DOUBLE TRIANGLE",
    "1LEFT-POINTING DOUBLE TRIANGLE,1UP-POINTING DOUBLE TRIANGLE,1DOWN-POINTING DOUBLE TRIANGLE",
    "1RIGHT-POINTING DOUBLE TRIANGLE WITH VERTICAL BAR,1LEFT-POINTING DOUBLE TRIANGLE WITH VERTICAL BAR",
    "1RIGHT-POINTING TRIANGLE WITH DOUBLE VERTICAL BAR,0ALARM CLOCK,0STOPWATCH,0TIMER CLOCK",
    "0HOURGLASS WITH FLOWING SAND,0BLACK MEDIUM LEFT-POINTING TRIANGLE,2RIGHT-POINTING TRIANGLE",
    "2UP-POINTING TRIANGLE,2DOWN-POINTING TRIANGLE,0DOUBLE VERTICAL BAR,0BLACK SQUARE FOR STOP",
    "1CIRCLE FOR RECORD,0POWER SYMBOL,1ON-OFF SYMBOL,1ON SYMBOL,1SLEEP SYMBOL,0OBSERVER EYE SYMBOL",
    "0SYMBOL FOR NULL,2START OF HEADING,4TEXT,2END OF TEXT,4TRANSMISSION,2ENQUIRY,2ACKNOWLEDGE,2BELL",
    "2BACKSPACE,2HORIZONTAL TABULATION,2LINE FEED,2VERTICAL TABULATION,2FORM FEED,2CARRIAGE RETURN",
    "2SHIFT OUT,3IN,2DATA LINK ESCAPE,2DEVICE CONTROL ONE,4TWO,4THREE,4FOUR,2NEGATIVE ACKNOWLEDGE",
    "2SYNCHRONOUS IDLE,2END OF TRANSMISSION BLOCK,2CANCEL,2END OF MEDIUM,2SUBSTITUTE,2ESCAPE",
    "2FILE SEPARATOR,2GROUP SEPARATOR,2RECORD SEPARATOR,2UNIT SEPARATOR,2SPACE,2DELETE,0BLANK SYMBOL",
    "0OPEN BOX,0SYMBOL FOR NEWLINE,2DELETE FORM TWO,2SUBSTITUTE FORM TWO,=2440 0OCR HOOK,1CHAIR,1FORK",
    "1INVERTED FORK,1BELT BUCKLE,1BOW TIE,1BRANCH BANK IDENTIFICATION,1AMOUNT OF CHECK,1DASH",
    "1CUSTOMER ACCOUNT NUMBER,1DOUBLE BACKSLASH,=2460 0CIRCLED DIGIT ONE,2TWO,2THREE,2FOUR,2FIVE,2SIX",
    "2SEVEN,2EIGHT,2NINE,1NUMBER TEN,2ELEVEN,2TWELVE,2THIRTEEN,2FOURTEEN,2FIFTEEN,2SIXTEEN,2SEVENTEEN",
    "2EIGHTEEN,2NINETEEN,2TWENTY,0PARENTHESIZED DIGIT ONE,2TWO,2THREE,2FOUR,2FIVE,2SIX,2SEVEN,2EIGHT,2NINE",
    "1NUMBER TEN,2ELEVEN,2TWELVE,2THIRTEEN,2FOURTEEN,2FIFTEEN,2SIXTEEN,2SEVENTEEN,2EIGHTEEN,2NINETEEN",
    "2TWENTY,0DIGIT ONE FULL STOP,1TWO FULL STOP,1THREE FULL STOP,1FOUR FULL STOP,1FIVE FULL STOP",
    "1SIX FULL STOP,1SEVEN FULL STOP,1EIGHT FULL STOP,1NINE FULL STOP,0NUMBER TEN FULL STOP",
    "1ELEVEN FULL STOP,1TWELVE FULL STOP,1THIRTEEN FULL STOP,1FOURTEEN FULL STOP,1FIFTEEN FULL STOP",
    "1SIXTEEN FULL STOP,1SEVENTEEN FULL STOP,1EIGHTEEN FULL STOP,1NINETEEN FULL STOP,1TWENTY FULL STOP",
    "0PARENTHESIZED LATIN SMALL LETTER A,4B,4C,4D,4E,4F,4G,4H,4I,4J,4K,4L,4M,4N,4O,4P,4Q,4R,4S,4T,4U,4V,4W",
    "4X,4Y,4Z,0CIRCLED LATIN CAPITAL LETTER A,4B,4C,4D,4E,4F,4G,4H,4I,4J,4K,4L,4M,4N,4O,4P,4Q,4R,4S,4T,4U",
    "4V,4W,4X,4Y,4Z,2SMALL LETTER A,4B,4C,4D,4E,4F,4G,4H,4I,4J,4K,4L,4M,4N,4O,4P,4Q,4R,4S,4T,4U,4V,4W,4X,4Y",
    "4Z,1DIGIT ZERO,0NEGATIVE CIRCLED NUMBER ELEVEN,3TWELVE,3THIRTEEN,3FOURTEEN,3FIFTEEN,3SIXTEEN",
    "3SEVENTEEN,3EIGHTEEN,3NINETEEN,3TWENTY,0DOUBLE CIRCLED DIGIT ONE,3TWO,3THREE,3FOUR,3FIVE,3SIX,3SEVEN",
    "3EIGHT,3NINE,2NUMBER TEN,0NEGATIVE CIRCLED DIGIT ZERO"]

end Untrack.Unicode.Names
