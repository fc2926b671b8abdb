/-
  Untrack.Unicode.Names.From11000 — names of the characters from 11000 up to 11FFF.
-/

namespace Untrack.Unicode.Names

def from11000 : List String :=
  ["=11000 0BRAHMI SIGN CANDRABINDU,2ANUSVARA,2VISARGA,2JIHVAMULIYA,2UPADHMANIYA,1LETTER A,2AA,2I,2II,2U",
    "2UU,2VOCALIC R,3RR,3L,3LL,2E,2AI,2O,2AU,2KA,2KHA,2GA,2GHA,2NGA,2CA,2CHA,2JA,2JHA,2NYA,2TTA,2TTHA,2DDA",
    "2DDHA,2NNA,2TA,2THA,2DA,2DHA,2NA,2PA,2PHA,2BA,2BHA,2MA,2YA,2RA,2LA,2VA,2SHA,2SSA,2SA,2HA,2LLA",
    "2OLD TAMIL LLLA,4RRA,4NNNA,1VOWEL SIGN AA,3BHATTIPROLU AA,3I,3II,3U,3UU,3VOCALIC R,4RR,4L,4LL,3E,3AI",
    "3O,3AU,1VIRAMA,1DANDA,1DOUBLE DANDA,1PUNCTUATION DOT,2DOUBLE DOT,2LINE,2CRESCENT BAR,2LOTUS",
    "=11052 1NUMBER ONE,2TWO,2THREE,2FOUR,2FIVE,2SIX,2SEVEN,2EIGHT,2NINE,2TEN,2TWENTY,2THIRTY,2FORTY,2FIFTY",
    "2SIXTY,2SEVENTY,2EIGHTY,2NINETY,2ONE HUNDRED,3THOUSAND,1DIGIT ZERO,2ONE,2TWO,2THREE,2FOUR,2FIVE,2SIX",
    "2SEVEN,2EIGHT,2NINE,1SIGN OLD TAMIL VIRAMA,1LETTER OLD TAMIL SHORT E,5O,1VOWEL SIGN OLD TAMIL SHORT E",
    "6O,1LETTER OLD TAMIL LLA,=1107F 1NUMBER JOINER,0KAITHI SIGN CANDRABINDU,2ANUSVARA,2VISARGA,1LETTER A",
    "2AA,2I,2II,2U,2UU,2E,2AI,2O,2AU,2KA,2KHA,2GA,2GHA,2NGA,2CA,2CHA,2JA,2JHA,2NYA,2TTA,2TTHA,2DDA,2DDDHA",
    "2DDHA,2RHA,2NNA,2TA,2THA,2DA,2DHA,2NA,2PA,2PHA,2BA,2BHA,2MA,2YA,2RA,2LA,2VA,2SHA,2SSA,2SA,2HA",
    "1VOWEL SIGN AA,3I,3II,3U,3UU,3E,3AI,3O,3AU,1SIGN VIRAMA,2NUKTA,1ABBREVIATION SIGN,1ENUMERATION SIGN",
    "1NUMBER SIGN,1SECTION MARK,1DOUBLE SECTION MARK,1DANDA,1DOUBLE DANDA,1VOWEL SIGN VOCALIC R",
    "=110CD 1NUMBER SIGN ABOVE,=110D0 0SORA SOMPENG LETTER SAH,3TAH,3BAH,3CAH,3DAH,3GAH,3MAH,3NGAH,3LAH",
    "3NAH,3VAH,3PAH,3YAH,3RAH,3HAH,3KAH,3JAH,3NYAH,3AH,3EEH,3IH,3UH,3OH,3EH,3MAE,=110F0 2DIGIT ZERO,3ONE",
    "3TWO,3THREE,3FOUR,3FIVE,3SIX,3SEVEN,3EIGHT,3NINE,=11100 0CHAKMA SIGN CANDRABINDU,2ANUSVARA,2VISARGA",
    "1LETTER AA,2I,2U,2E,2KAA,2KHAA,2GAA,2GHAA,2NGAA,2CAA,2CHAA,2JAA,2JHAA,2NYAA,2TTAA,2TTHAA,2DDAA,2DDHAA",
    "2NNAA,2TAA,2THAA,2DAA,2DHAA,2NAA,2PAA,2PHAA,2BAA,2BHAA,2MAA,2YYAA,2YAA,2RAA,2LAA,2WAA,2SAA,2HAA",
    "1VOWEL SIGN A,3I,3II,3U,3UU,3E,3AI,3O,3AU,3OI,1O MARK,1AU MARK,1VIRAMA,1MAAYYAA,=11136 1DIGIT ZERO",
    "2ONE,2TWO,2THREE,2FOUR,2FIVE,2SIX,2SEVEN,2EIGHT,2NINE,1SECTION MARK,1DANDA,1DOUBLE DANDA",
    "1QUESTION MARK,1LETTER LHAA,1VOWEL SIGN AA,3EI,1LETTER VAA,=11150 0MAHAJANI LETTER A,2I,2U,2E,2O,2KA",
    "2KHA,2GA,2GHA,2CA,2CHA,2JA,2JHA,2NYA,2TTA,2TTHA,2DDA,2DDHA,2NNA,2TA,2THA,2DA,2DHA,2NA,2PA,2PHA,2BA",
    "2BHA,2MA,2RA,2LA,2VA,2SA,2HA,2RRA,1SIGN NUKTA,1ABBREVIATION SIGN,1SECTION MARK,1LIGATURE SHRI",
    "=11180 0SHARADA SIGN CANDRABINDU,2ANUSVARA,2VISARGA,1LETTER A,2AA,2I,2II,2U,2UU,2VOCALIC R,3RR,3L,3LL",
    "2E,2AI,2O,2AU,2KA,2KHA,2GA,2GHA,2NGA,2CA,2CHA,2JA,2JHA,2NYA,2TTA,2TTHA,2DDA,2DDHA,2NNA,2TA,2THA,2DA",
    "2DHA,2NA,2PA,2PHA,2BA,2BHA,2MA,2YA,2RA,2LA,2LLA,2VA,2SHA,2SSA,2SA,2HA,1VOWEL SIGN AA,3I,3II,3U,3UU",
    "3VOCALIC R,4RR,4L,4LL,3E,3AI,3O,3AU,1SIGN VIRAMA,2AVAGRAHA,2JIHVAMULIYA,2UPADHMANIYA,1OM,1DANDA",
    "1DOUBLE DANDA,1ABBREVIATION SIGN,1SEPARATOR,1SANDHI MARK,1SIGN NUKTA,1VOWEL MODIFIER MARK",
    "1EXTRA SHORT VOWEL MARK,1SUTRA MARK,1VOWEL SIGN PRISHTHAMATRA E,1SIGN INVERTED CANDRABINDU,1DIGIT ZERO",
    "2ONE,2TWO,2THREE,2FOUR,2FIVE,2SIX,2SEVEN,2EIGHT,2NINE,1EKAM,1SIGN SIDDHAM,1HEADSTROKE",
    "1CONTINUATION SIGN,1SECTION MARK-1,2MARK-2,=111E1 0SINHALA ARCHAIC DIGIT ONE,3TWO,3THREE,3FOUR,3FIVE",
    "3SIX,3SEVEN,3EIGHT,3NINE,2NUMBER TEN,3TWENTY,3THIRTY,3FORTY,3FIFTY,3SIXTY,3SEVENTY,3EIGHTY,3NINETY",
    "3ONE HUNDRED,4THOUSAND,=11200 0KHOJKI LETTER A,2AA,2I,2U,2E,2AI,2O,2AU,2KA,2KHA,2GA,2GGA,2GHA,2NGA,2CA",
    "2CHA,2JA,2JJA,=11213 2NYA,2TTA,2TTHA,2DDA,2DDHA,2NNA,2TA,2THA,2DA,2DDDA,2DHA,2NA,2PA,2PHA,2BA,2BBA",
    "2BHA,2MA,2YA,2RA,2LA,2VA,2SA,2HA,2LLA,1VOWEL SIGN AA,3I,3II,3U,3E,3AI,3O,3AU,1SIGN ANUSVARA,2VIRAMA",
    "2NUKTA,2SHADDA,1DANDA,1DOUBLE DANDA,1WORD SEPARATOR,1SECTION MARK,1DOUBLE SECTION MARK",
    "1ABBREVIATION SIGN,1SIGN SUKUN,=11280 0MULTANI LETTER A,2I,2U,2E,2KA,2KHA,2GA,=11288 2GHA,=1128A 2CA",
    "2CHA,2JA,2JJA,=1128F 2NYA,2TTA,2TTHA,2DDA,2DDDA,2DDHA,2NNA,2TA,2THA,2DA,2DHA,2NA,2PA,2PHA,2BA",
    "=1129F 2BHA,2MA,2YA,2RA,2LA,2VA,2SA,2HA,2RRA,2RHA,1SECTION MARK,=112B0 0KHUDAWADI LETTER A,2AA,2I,2II",
    "2U,2UU,2E,2AI,2O,2AU,2KA,2KHA,2GA,2GGA,2GHA,2NGA,2CA,2CHA,2JA,2JJA,2JHA,2NYA,2TTA,2TTHA,2DDA,2DDDA",
    "2RRA,2DDHA,2NNA,2TA,2THA,2DA,2DHA,2NA,2PA,2PHA,2BA,2BBA,2BHA,2MA,2YA,2RA,2LA,2VA,2SHA,2SA,2HA",
    "1SIGN ANUSVARA,1VOWEL SIGN AA,3I,3II,3U,3UU,3E,3AI,3O,3AU,1SIGN NUKTA,2VIRAMA,=112F0 1DIGIT ZERO,2ONE",
    "2TWO,2THREE,2FOUR,2FIVE,2SIX,2SEVEN,2EIGHT,2NINE,=11300 0GRANTHA SIGN COMBINING ANUSVARA ABOVE",
    "2CANDRABINDU,2ANUSVARA,2VISARGA,=11305 1LETTER A,2AA,2I,2II,2U,2UU,2VOCALIC R,3L,=1130F 2EE,2AI",
    "=11313 2OO,2AU,2KA,2KHA,2GA,2GHA,2NGA,2CA,2CHA,2JA,2JHA,2NYA,2TTA,2TTHA,2DDA,2DDHA,2NNA,2TA,2THA,2DA",
    "2DHA,2NA,=1132A 2PA,2PHA,2BA,2BHA,2MA,2YA,2RA,=11332 2LA,2LLA,=11335 2VA,2SHA,2SSA,2SA,2HA",
    "=1133B 0COMBINING BINDU BELOW,0GRANTHA SIGN NUKTA,2AVAGRAHA,1VOWEL SIGN AA,3I,3II,3U,3UU,3VOCALIC R",
    "4RR,=11347 3EE,3AI,=1134B 3OO,3AU,1SIGN VIRAMA,=11350 1OM,=11357 1AU LENGTH MARK,=1135D 1SIGN PLUTA",
    "1LETTER VEDIC ANUSVARA,3DOUBLE ANUSVARA,2VOCALIC RR,3LL,1VOWEL SIGN VOCALIC L,4LL",
    "=11366 0COMBINING GRANTHA DIGIT ZERO,3ONE,3TWO,3THREE,3FOUR,3FIVE,3SIX,=11370 2LETTER A,3KA,3NA,3VI",
    "3PA,=11400 0NEWA LETTER A,2AA,2I,2II,2U,2UU,2VOCALIC R,3RR,3L,3LL,2E,2AI,2O,2AU,2KA,2KHA,2GA,2GHA,2NGA",
    "2NGHA,2CA,2CHA,2JA,2JHA,2NYA,2NYHA,2TTA,2TTHA,2DDA,2DDHA,2NNA,2TA,2THA,2DA,2DHA,2NA,2NHA,2PA,2PHA,2BA",
    "2BHA,2MA,2MHA,2YA,2RA,2RHA,2LA,2LHA,2WA,2SHA,2SSA,2SA,2HA,1VOWEL SIGN AA,3I,3II,3U,3UU,3VOCALIC R,4RR",
    "4L,4LL,3E,3AI,3O,3AU,1SIGN VIRAMA,2CANDRABINDU,2ANUSVARA,2VISARGA,2NUKTA,2AVAGRAHA,2FINAL ANUSVARA,1OM",
    "1SIDDHI,1DANDA,1DOUBLE DANDA,1COMMA,1GAP FILLER,1ABBREVIATION SIGN,1DIGIT ZERO,2ONE,2TWO,2THREE,2FOUR",
    "2FIVE,2SIX,2SEVEN,2EIGHT,2NINE,1DOUBLE COMMA,1PLACEHOLDER MARK,=1145D 1INSERTION SIGN,1SANDHI MARK",
    "1LETTER VEDIC ANUSVARA,1SIGN JIHVAMULIYA,2UPADHMANIYA,=11480 0TIRHUTA ANJI,1LETTER A,2AA,2I,2II,2U,2UU",
    "2VOCALIC R,3RR,3L,3LL,2E,2AI,2O,2AU,2KA,2KHA,2GA,2GHA,2NGA,2CA,2CHA,2JA,2JHA,2NYA,2TTA,2TTHA,2DDA",
    "2DDHA,2NNA,2TA,2THA,2DA,2DHA,2NA,2PA,2PHA,2BA,2BHA,2MA,2YA,2RA,2LA,2VA,2SHA,2SSA,2SA,2HA",
    "1VOWEL SIGN AA,3I,3II,3U,3UU,3VOCALIC R,4RR,4L,4LL,3E,3SHORT E,3AI,3O,3SHORT O,3AU,1SIGN CANDRABINDU",
    "2ANUSVARA,2VISARGA,2VIRAMA,2NUKTA,2AVAGRAHA,1GVANG,1ABBREVIATION SIGN,1OM,=114D0 1DIGIT ZERO,2ONE,2TWO",
    "2THREE,2FOUR,2FIVE,2SIX,2SEVEN,2EIGHT,2NINE,=11580 0SIDDHAM LETTER A,2AA,2I,2II,2U,2UU,2VOCALIC R,3RR",
    "3L,3LL,2E,2AI,2O,2AU,2KA,2KHA,2GA,2GHA,2NGA,2CA,2CHA,2JA,2JHA,2NYA,2TTA,2TTHA,2DDA,2DDHA,2NNA,2TA,2THA",
    "2DA,2DHA,2NA,2PA,2PHA,2BA,2BHA,2MA,2YA,2RA,2LA,2VA,2SHA,2SSA,2SA,2HA,1VOWEL SIGN AA,3I,3II,3U,3UU",
    "3VOCALIC R,4RR,=115B8 3E,3AI,3O,3AU,1SIGN CANDRABINDU,2ANUSVARA,2VISARGA,2VIRAMA,2NUKTA,2SIDDHAM",
    "1DANDA,1DOUBLE DANDA,1SEPARATOR DOT,2BAR,1REPETITION MARK-1,2MARK-2,2MARK-3,1END OF TEXT MARK",
    "1SECTION MARK WITH TRIDENT AND U-SHAPED ORNAMENTS,6DOTTED CRESCENTS,4RAYS AND DOTTED CRESCENTS",
    "7DOUBLE CRESCENTS,7TRIPLE CRESCENTS,3DOUBLE RING,5WITH RAYS,3WITH DOUBLE CRESCENTS,4TRIPLE CRESCENTS",
    "4QUADRUPLE CRESCENTS,4SEPTUPLE CRESCENTS,4CIRCLES AND RAYS,6TWO ENCLOSURES,6FOUR ENCLOSURES",
    "1LETTER THREE-CIRCLE ALTERNATE I,2TWO-CIRCLE ALTERNATE I,4II,2ALTERNATE U,1VOWEL SIGN ALTERNATE U,4UU",
    "=11600 0MODI LETTER A,2AA,2I,2II,2U,2UU,2VOCALIC R,3RR,3L,3LL,2E,2AI,2O,2AU,2KA,2KHA,2GA,2GHA,2NGA,2CA",
    "2CHA,2JA,2JHA,2NYA,2TTA,2TTHA,2DDA,2DDHA,2NNA,2TA,2THA,2DA,2DHA,2NA,2PA,2PHA,2BA,2BHA,2MA,2YA,2RA,2LA",
    "2VA,2SHA,2SSA,2SA,2HA,2LLA,1VOWEL SIGN AA,3I,3II,3U,3UU,3VOCALIC R,4RR,4L,4LL,3E,3AI,3O,3AU",
    "1SIGN ANUSVARA,2VISARGA,2VIRAMA,2ARDHACANDRA,1DANDA,1DOUBLE DANDA,1ABBREVIATION SIGN,1SIGN HUVA",
    "=11650 1DIGIT ZERO,2ONE,2TWO,2THREE,2FOUR,2FIVE,2SIX,2SEVEN,2EIGHT,2NINE",
    "=11660 0MONGOLIAN BIRGA WITH ORNAMENT,1ROTATED BIRGA,1DOUBLE BIRGA WITH ORNAMENT",
    "1TRIPLE BIRGA WITH ORNAMENT,1BIRGA WITH DOUBLE ORNAMENT,1ROTATED BIRGA WITH ORNAMENT,4DOUBLE ORNAMENT",
    "1INVERTED BIRGA,3WITH DOUBLE ORNAMENT,1SWIRL BIRGA,3WITH ORNAMENT,4DOUBLE ORNAMENT",
    "1TURNED SWIRL BIRGA WITH DOUBLE ORNAMENT,=11680 0TAKRI LETTER A,2AA,2I,2II,2U,2UU,2E,2AI,2O,2AU,2KA",
    "2KHA,2GA,2GHA,2NGA,2CA,2CHA,2JA,2JHA,2NYA,2TTA,2TTHA,2DDA,2DDHA,2NNA,2TA,2THA,2DA,2DHA,2NA,2PA,2PHA",
    "2BA,2BHA,2MA,2YA,2RA,2LA,2VA,2SHA,2SA,2HA,2RRA,1SIGN ANUSVARA,2VISARGA,1VOWEL SIGN AA,3I,3II,3U,3UU,3E",
    "3AI,3O,3AU,1SIGN VIRAMA,2NUKTA,1LETTER ARCHAIC KHA,1ABBREVIATION SIGN,=116C0 1DIGIT ZERO,2ONE,2TWO",
    "2THREE,2FOUR,2FIVE,2SIX,2SEVEN,2EIGHT,2NINE,=11700 0AHOM LETTER KA,2KHA,2NGA,2NA,2TA,2ALTERNATE TA,2PA",
    "2PHA,2BA,2MA,2JA,2CHA,2THA,2RA,2LA,2SA,2NYA,2HA,2A,2DA,2DHA,2GA,2ALTERNATE GA,2GHA,2BHA,2JHA",
    "2ALTERNATE BA,=1171D 1CONSONANT SIGN MEDIAL LA,4RA,4LIGATING RA,1VOWEL SIGN A,3AA,3I,3II,3U,3UU,3E,3AW",
    "3O,3AI,3AM,1SIGN KILLER,=11730 1DIGIT ZERO,2ONE,2TWO,2THREE,2FOUR,2FIVE,2SIX,2SEVEN,2EIGHT,2NINE",
    "1NUMBER TEN,2TWENTY,1SIGN SMALL SECTION,2SECTION,2RULAI,1SYMBOL VI,1LETTER CA,2TTA,2TTHA,2DDA,2DDHA",
    "2NNA,2LLA,=11800 0DOGRA LETTER A,2AA,2I,2II,2U,2UU,2E,2AI,2O,2AU,2KA,2KHA,2GA,2GHA,2NGA,2CA,2CHA,2JA",
    "2JHA,2NYA,2TTA,2TTHA,2DDA,2DDHA,2NNA,2TA,2THA,2DA,2DHA,2NA,2PA,2PHA,2BA,2BHA,2MA,2YA,2RA,2LA,2VA,2SHA",
    "2SSA,2SA,2HA,2RRA,1VOWEL SIGN AA,3I,3II,3U,3UU,3VOCALIC R,4RR,3E,3AI,3O,3AU,1SIGN ANUSVARA,2VISARGA",
    "2VIRAMA,2NUKTA,1ABBREVIATION SIGN,=118A0 0WARANG CITI CAPITAL LETTER NGAA,4A,4WI,4YU,4YA,4YO,4II,4UU",
    "4E,4O,4ANG,4GA,4KO,4ENY,4YUJ,4UC,4ENN,4ODD,4TTE,4NUNG,4DA,4AT,4AM,4BU,4PU,4HIYO,4HOLO,4HORR,4HAR,4SSUU",
    "4SII,4VIYO,2SMALL LETTER NGAA,4A,4WI,4YU,4YA,4YO,4II,4UU,4E,4O,4ANG,4GA,4KO,4ENY,4YUJ,4UC,4ENN,4ODD",
    "4TTE,4NUNG,4DA,4AT,4AM,4BU,4PU,4HIYO,4HOLO,4HORR,4HAR,4SSUU,4SII,4VIYO,2DIGIT ZERO,3ONE,3TWO,3THREE",
    "3FOUR,3FIVE,3SIX,3SEVEN,3EIGHT,3NINE,2NUMBER TEN,3TWENTY,3THIRTY,3FORTY,3FIFTY,3SIXTY,3SEVENTY,3EIGHTY",
    "3NINETY,=118FF 2OM,0DIVES AKURU LETTER A,3AA,3I,3II,3U,3UU,3E,=11909 3O,=1190C 3KA,3KHA,3GA,3GHA,3NGA",
    "3CA,3CHA,3JA,=11915 3NYA,3TTA,=11918 3DDA,3DDHA,3NNA,3TA,3THA,3DA,3DHA,3NA,3PA,3PHA,3BA,3BHA,3MA,3YA",
    "3YYA,3RA,3LA,3VA,3SHA,3SSA,3SA,3HA,3LLA,3ZA,2VOWEL SIGN AA,4I,4II,4U,4UU,4E,=11937 4AI,4O",
    "=1193B 2SIGN ANUSVARA,3CANDRABINDU,3HALANTA,2VIRAMA,2PREFIXED NASAL SIGN,2MEDIAL YA,2INITIAL RA",
    "2MEDIAL RA,2SIGN NUKTA,2DOUBLE DANDA,2GAP FILLER,2END OF TEXT MARK,=11950 2DIGIT ZERO,3ONE,3TWO,3THREE",
    "3FOUR,3FIVE,3SIX,3SEVEN,3EIGHT,3NINE,=119A0 0NANDINAGARI LETTER A,2AA,2I,2II,2U,2UU,2VOCALIC R,3RR",
    "=119AA 2E,2AI,2O,2AU,2KA,2KHA,2GA,2GHA,2NGA,2CA,2CHA,2JA,2JHA,2NYA,2TTA,2TTHA,2DDA,2DDHA,2NNA,2TA,2THA",
    "2DA,2DHA,2NA,2PA,2PHA,2BA,2BHA,2MA,2YA,2RA,2LA,2VA,2SHA,2SSA,2SA,2HA,2LLA,2RRA,1VOWEL SIGN AA,3I,3II",
    "3U,3UU,3VOCALIC R,4RR,=119DA 3E,3AI,3O,3AU,1SIGN ANUSVARA,2VISARGA,2VIRAMA,2AVAGRAHA,2SIDDHAM",
    "1HEADSTROKE,1VOWEL SIGN PRISHTHAMATRA E,=11A00 0ZANABAZAR SQUARE LETTER A,2VOWEL SIGN I,4UE,4U,4E,4OE",
    "4O,4AI,4AU,4REVERSED I,3LENGTH MARK,2LETTER KA,3KHA,3GA,3GHA,3NGA,3CA,3CHA,3JA,3NYA,3TTA,3TTHA,3DDA",
    "3DDHA,3NNA,3TA,3THA,3DA,3DHA,3NA,3PA,3PHA,3BA,3BHA,3MA,3TSA,3TSHA,3DZA,3DZHA,3ZHA,3ZA,3-A,3YA,3RA,3LA",
    "3VA,3SHA,3SSA,3SA,3HA,3KSSA,2FINAL CONSONANT MARK,2SIGN VIRAMA,3CANDRABINDU,4WITH ORNAMENT",
    "3CANDRA WITH ORNAMENT,3ANUSVARA,3VISARGA,2CLUSTER-INITIAL LETTER RA,2CLUSTER-FINAL LETTER YA,4RA,4LA",
    "4VA,2INITIAL HEAD MARK,2CLOSING HEAD MARK,2MARK TSHEG,3SHAD,3DOUBLE SHAD,3LONG TSHEG",
    "2INITIAL DOUBLE-LINED HEAD MARK,2CLOSING DOUBLE-LINED HEAD MARK,2SUBJOINER,=11A50 0SOYOMBO LETTER A",
    "1VOWEL SIGN I,3UE,3U,3E,3O,3OE,3AI,3AU,3VOCALIC R,4L,2LENGTH MARK,1LETTER KA,2KHA,2GA,2GHA,2NGA,2CA",
    "2CHA,2JA,2JHA,2NYA,2TTA,2TTHA,2DDA,2DDHA,2NNA,2TA,2THA,2DA,2DHA,2NA,2PA,2PHA,2BA,2BHA,2MA,2TSA,2TSHA",
    "2DZA,2ZHA,2ZA,2-A,2YA,2RA,2LA,2VA,2SHA,2SSA,2SA,2HA,2KSSA,1SIGN JIHVAMULIYA,2UPADHMANIYA",
    "1CLUSTER-INITIAL LETTER RA,3LA,3SHA,3SA,1FINAL CONSONANT SIGN G,4K,4NG,4D,4N,4B,4M,4R,4L,4SH,4S,4-A",
    "1SIGN ANUSVARA,2VISARGA,1GEMINATION MARK,1SUBJOINER,1MARK TSHEG,2SHAD,2DOUBLE SHAD,2PLUTA",
    "1HEAD MARK WITH MOON AND SUN AND TRIPLE FLAME,8FLAME,6SUN,1TERMINAL MARK-1,2MARK-2",
    "=11AB0 0CANADIAN SYLLABICS NATTILIK HI,3HII,3HO,3HOO,3HA,3HAA,3SHRI,3SHRII,3SHRO,3SHROO,3SHRA,3SHRAA",
    "2SPE,2SPI,2SPO,2SPA,0PAU CIN HAU LETTER PA,4KA,4LA,4MA,4DA,4ZA,4VA,4NGA,4HA,4GA,4KHA,4SA,4BA,4CA,4TA",
    "4THA,4NA,4PHA,4RA,4FA,4CHA,4A,4E,4I,4O,4U,4UA,4IA,4FINAL P,5K,5T,5M,5N,5L,5W,5NG,5Y,3RISING TONE LONG",
    "4TONE,3SANDHI GLOTTAL STOP,3RISING TONE LONG FINAL,5FINAL,3SANDHI GLOTTAL STOP FINAL,4TONE LONG,4TONE",
    "5LONG FINAL,5FINAL,3MID-LEVEL TONE,3GLOTTAL STOP VARIANT,3MID-LEVEL TONE LONG FINAL,5FINAL",
    "3LOW-FALLING TONE LONG,4TONE,3GLOTTAL STOP,3LOW-FALLING TONE LONG FINAL,5FINAL,3GLOTTAL STOP FINAL",
    "=11C00 0BHAIKSUKI LETTER A,2AA,2I,2II,2U,2UU,2VOCALIC R,3RR,3L,=11C0A 2E,2AI,2O,2AU,2KA,2KHA,2GA,2GHA",
    "2NGA,2CA,2CHA,2JA,2JHA,2NYA,2TTA,2TTHA,2DDA,2DDHA,2NNA,2TA,2THA,2DA,2DHA,2NA,2PA,2PHA,2BA,2BHA,2MA,2YA",
    "2RA,2LA,2VA,2SHA,2SSA,2SA,2HA,1VOWEL SIGN AA,3I,3II,3U,3UU,3VOCALIC R,4RR,4L,=11C38 3E,3AI,3O,3AU",
    "1SIGN CANDRABINDU,2ANUSVARA,2VISARGA,2VIRAMA,2AVAGRAHA,1DANDA,1DOUBLE DANDA,1WORD SEPARATOR",
    "1GAP FILLER-1,2FILLER-2,=11C50 1DIGIT ZERO,2ONE,2TWO,2THREE,2FOUR,2FIVE,2SIX,2SEVEN,2EIGHT,2NINE",
    "1NUMBER ONE,2TWO,2THREE,2FOUR,2FIVE,2SIX,2SEVEN,2EIGHT,2NINE,2TEN,2TWENTY,2THIRTY,2FORTY,2FIFTY,2SIXTY",
    "2SEVENTY,2EIGHTY,2NINETY,1HUNDREDS UNIT MARK,=11C70 0MARCHEN HEAD MARK,1MARK SHAD,1LETTER KA,2KHA,2GA",
    "2NGA,2CA,2CHA,2JA,2NYA,2TA,2THA,2DA,2NA,2PA,2PHA,2BA,2MA,2TSA,2TSHA,2DZA,2WA,2ZHA,2ZA,2-A,2YA,2RA,2LA",
    "2SHA,2SA,2HA,2A,=11C92 1SUBJOINED LETTER KA,3KHA,3GA,3NGA,3CA,3CHA,3JA,3NYA,3TA,3THA,3DA,3NA,3PA,3PHA",
    "3BA,3MA,3TSA,3TSHA,3DZA,3WA,3ZHA,3ZA,=11CA9 3YA,3RA,3LA,3SHA,3SA,3HA,3A,1VOWEL SIGN AA,3I,3U,3E,3O",
    "1SIGN ANUSVARA,2CANDRABINDU,=11D00 0MASARAM GONDI LETTER A,3AA,3I,3II,3U,3UU,3E,=11D08 3AI,3O",
    "=11D0B 3AU,3KA,3KHA,3GA,3GHA,3NGA,3CA,3CHA,3JA,3JHA,3NYA,3TTA,3TTHA,3DDA,3DDHA,3NNA,3TA,3THA,3DA,3DHA",
    "3NA,3PA,3PHA,3BA,3BHA,3MA,3YA,3RA,3LA,3VA,3SHA,3SSA,3SA,3HA,3LLA,3KSSA,3JNYA,3TRA,2VOWEL SIGN AA,4I",
    "4II,4U,4UU,4VOCALIC R,=11D3A 4E,=11D3C 4AI,4O,=11D3F 4AU,2SIGN ANUSVARA,3VISARGA,3NUKTA,3CANDRA",
    "3HALANTA,2VIRAMA,2REPHA,2RA-KARA,=11D50 2DIGIT ZERO,3ONE,3TWO,3THREE,3FOUR,3FIVE,3SIX,3SEVEN,3EIGHT",
    "3NINE,=11D60 0GUNJALA GONDI LETTER A,3AA,3I,3II,3U,3UU,=11D67 3EE,3AI,=11D6A 3OO,3AU,3YA,3VA,3BA,3BHA",
    "3MA,3KA,3KHA,3TA,3THA,3LA,3GA,3GHA,3DA,3DHA,3NA,3CA,3CHA,3TTA,3TTHA,3LLA,3JA,3JHA,3DDA,3DDHA,3NGA,3PA",
    "3PHA,3HA,3RA,3SA,2VOWEL SIGN AA,4I,4II,4U,4UU,=11D90 4EE,4AI,=11D93 4OO,4AU,2SIGN ANUSVARA,3VISARGA",
    "2VIRAMA,2OM,=11DA0 2DIGIT ZERO,3ONE,3TWO,3THREE,3FOUR,3FIVE,3SIX,3SEVEN,3EIGHT,3NINE",
    "=11EE0 0MAKASAR LETTER KA,2GA,2NGA,2PA,2BA,2MA,2TA,2DA,2NA,2CA,2JA,2NYA,2YA,2RA,2LA,2VA,2SA,2A,1ANGKA",
    "1VOWEL SIGN I,3U,3E,3O,1PASSIMBANG,1END OF SECTION,=11FB0 0LISU LETTER YHA",
    "=11FC0 0TAMIL FRACTION ONE THREE-HUNDRED-AND-TWENTIETH,3ONE-HUNDRED-AND-SIXTIETH,3EIGHTIETH",
    "3SIXTY-FOURTH,3FORTIETH,3THIRTY-SECOND,2THREE EIGHTIETHS,3SIXTY-FOURTHS,2ONE TWENTIETH,3SIXTEENTH-1",
    "3SIXTEENTH-2,3TENTH,3EIGHTH,2THREE TWENTIETHS,3SIXTEENTHS,2ONE FIFTH,3QUARTER,3HALF-1,3HALF-2",
    "2THREE QUARTERS,2DOWNSCALING FACTOR KIIZH,1SIGN NEL,2CEVITU,2AAZHAAKKU,2UZHAKKU,2MUUVUZHAKKU,2KURUNI",
    "2PATHAKKU,2MUKKURUNI,2KAACU,2PANAM,2PON,2VARAAKAN,2PAARAM,2KUZHI,2VELI,1WET CULTIVATION SIGN",
    "1DRY CULTIVATION SIGN,1LAND SIGN,1SALT PAN SIGN,1TRADITIONAL CREDIT SIGN,2NUMBER SIGN,1CURRENT SIGN",
    "1AND ODD SIGN,1SPENT SIGN,1TOTAL SIGN,1IN POSSESSION SIGN,1STARTING FROM SIGN,1SIGN MUTHALIYA",
    "2VAKAIYARAA,=11FFF 1PUNCTUATION END OF TEXT"]

end Untrack.Unicode.Names
