/-
  Untrack.Unicode.Names.From12000 — names of the characters from 12000 up to 13FFF.
-/

namespace Untrack.Unicode.Names

def from12000 : List String :=
  ["=12000 0CUNEIFORM SIGN A,3TIMES A,4BAD,4GAN2 TENU,4HA,4IGI,4LAGAR GUNU,4MUSH,4SAG,2A2,2AB,3TIMES ASH2",
    "4DUN3 GUNU,4GAL,4GAN2 TENU,4HA,4IGI GUNU,4IMIN,4LAGAB,4SHESH,4U PLUS U PLUS U,3GUNU,2AB2,3TIMES BALAG",
    "4GAN2 TENU,4ME PLUS EN,4SHA3,4TAK4,2AD,2AK,3TIMES ERIN2,4SHITA PLUS GISH,2AL,3TIMES AL,4DIM2,4GISH,4HA",
    "4KAD3,4KI,4SHE,4USH,2ALAN,2ALEPH,2AMAR,3TIMES SHE,2AN,3OVER AN,3THREE TIMES",
    "3PLUS NAGA OPPOSING AN PLUS NAGA,5SQUARED,2ANSHE,2APIN,2ARAD,3TIMES KUR,2ARKAB,2ASAL2,2ASH,3ZIDA TENU",
    "3KABA TENU,3OVER ASH TUG2 OVER TUG2 TUG2 OVER TUG2 PAP,5OVER ASH,7CROSSING ASH OVER ASH OVER ASH,2ASH2",
    "2ASHGAB,2BA,2BAD,2BAG3,2BAHAR2,2BAL,3OVER BAL,2BALAG,2BAR,2BARA2,2BI,3TIMES A,4GAR,4IGI GUNU,2BU",
    "3OVER BU AB,5UN,3CROSSING BU,2BULUG,3OVER BULUG,2BUR,2BUR2,2DA,2DAG,3KISIM5 TIMES A PLUS MASH,5AMAR",
    "5BALAG,5BI,5GA,6PLUS MASH,5GI,5GIR2,5GUD,5HA,5IR,6PLUS LU,5KAK,5LA,5LU,6PLUS MASH2,5LUM,5NE",
    "5PAP PLUS PAP,5SI,5TAK4,5U2 PLUS GIR2,5USH,2DAM,2DAR,2DARA3,2DARA4,2DI,2DIB,2DIM,3TIMES SHE,2DIM2,2DIN",
    "3KASKAL U GUNU DISH,2DISH,2DU,3OVER DU,3GUNU,3SHESHIG,2DUB,3TIMES ESH2,2DUB2,2DUG,2DUGUD,2DUH,2DUN",
    "2DUN3,3GUNU,4GUNU,2DUN4,2DUR2,2E,3TIMES PAP,3OVER E NUN OVER NUN,2E2,3TIMES A PLUS HA PLUS DA,4GAR,4MI",
    "4SAL,4SHE,4U,2EDIN,2EGIR,2EL,2EN,3TIMES GAN2,5TENU,4ME,3CROSSING EN,3OPPOSING EN,3SQUARED,2EREN,2ERIN2",
    "2ESH2,2EZEN,3TIMES A,5PLUS LAL,7TIMES LAL,4AN,4BAD,4DUN3 GUNU,6GUNU,4HA,5GUNU,4IGI GUNU,4KASKAL",
    "5SQUARED,4KU3,4LA,4LAL TIMES LAL,4LI,4LU,4U2,4UD,2GA,3GUNU,2GA2,3TIMES A PLUS DA PLUS HA,6HA,6IGI",
    "4AB2 TENU PLUS TAB,4AN,4ASH,4ASH2 PLUS GAL,4BAD,4BAR PLUS RA,4BUR,5PLUS RA,4DA,4DI,4DIM TIMES SHE,4DUB",
    "4EL,5PLUS LA,4EN,5TIMES GAN2 TENU,4GAN2 TENU,4GAR,4GI,4GI4,5PLUS A,4GIR2 PLUS SU,4HA PLUS LU PLUS ESH2",
    "4HAL,5PLUS LA,4HI PLUS LI,4HUB2,4IGI GUNU,4ISH PLUS HU PLUS ASH,4KAK,4KASKAL,4KID,5PLUS LAL",
    "4KU3 PLUS AN,4LA,4ME PLUS EN,4MI,4NUN,5OVER NUN,4PA,4SAL,4SAR,4SHE,5PLUS TUR,4SHID,4SUM,4TAK4,4U,4UD",
    "5PLUS DU,3OVER GA2,2GABA,3CROSSING GABA,2GAD,3OVER GAD GAR OVER GAR,2GAL,3GAD OVER GAD GAR OVER GAR",
    "2GALAM,2GAM,2GAN,2GAN2,3TENU,3OVER GAN2,3CROSSING GAN2,2GAR,2GAR3,2GASHAN,2GESHTIN,3TIMES KUR,2GI",
    "3TIMES E,4U,3CROSSING GI,2GI4,3OVER GI4,3CROSSING GI4,2GIDIM,2GIR2,3GUNU,2GIR3,3TIMES A PLUS IGI",
    "4GAN2 TENU,4IGI,4LU PLUS IGI,4PA,2GISAL,2GISH,3CROSSING GISH,3TIMES BAD,4TAK4,3TENU,2GU,3CROSSING GU",
    "2GU2,3TIMES KAK,5TIMES IGI GUNU,4NUN,4SAL PLUS TUG2,3GUNU,2GUD,3TIMES A PLUS KUR,4KUR,3OVER GUD LUGAL",
    "2GUL,2GUM,3TIMES SHE,2GUR,2GUR7,2GURUN,2GURUSH,2HA,3TENU,3GUNU,2HAL,2HI,3TIMES ASH,4ASH2,4BAD,4DISH",
    "4GAD,4KIN,4NUN,4SHE,4U,2HU,2HUB2,3TIMES AN,4HAL,4KASKAL,4LISH,4UD,2HUL2,2I,3A,2IB,2IDIM,3OVER IDIM BUR",
    "5SQUARED,2IG,2IGI,3DIB,3RI,3OVER IGI SHIR OVER SHIR UD OVER UD,3GUNU,2IL,3TIMES GAN2 TENU,2IL2,2IM",
    "3TIMES TAK4,3CROSSING IM,3OPPOSING IM,3SQUARED,2IMIN,2IN,2IR,2ISH,2KA,3TIMES A,4AD,5PLUS KU3,4ASH2",
    "4BAD,4BALAG,4BAR,4BI,4ERIN2,4ESH2,4GA,4GAL,4GAN2 TENU,4GAR,5PLUS SHA3 PLUS A,4GI,4GIR2,4GISH PLUS SAR",
    "5CROSSING GISH,4GU,4GUR7,4IGI,4IM,4KAK,4KI,4KID,4LI,4LU,4ME,5PLUS DU,6GI,6TE,4MI,5PLUS NUNUZ,4NE,4NUN",
    "4PI,4RU,4SA,4SAR,4SHA,4SHE,4SHID,4SHU,4SIG,4SUHUR,4TAR,4U,4U2,4UD,4UMUM TIMES PA,4USH,4ZI,2KA2",
    "3CROSSING KA2,2KAB,2KAD2,2KAD3,2KAD4,2KAD5,3OVER KAD5,2KAK,3TIMES IGI GUNU,2KAL,3TIMES BAD",
    "3CROSSING KAL,2KAM2,2KAM4,2KASKAL,3LAGAB TIMES U OVER LAGAB TIMES U",
    "3OVER KASKAL LAGAB TIMES U OVER LAGAB TIMES U,2KESH2,2KI,3TIMES BAD,4U,4UD,2KID,2KIN,2KISAL,2KISH",
    "2KISIM5,3OVER KISIM5,2KU,3OVER HI TIMES ASH2 KU OVER HI TIMES ASH2,2KU3,2KU4,3VARIANT FORM,2KU7,2KUL",
    "3GUNU,2KUN,2KUR,3OPPOSING KUR,2KUSHU2,2KWU318,2LA,2LAGAB,3TIMES A,5PLUS DA PLUS HA,6GAR,6LAL,4AL,4AN",
    "4ASH ZIDA TENU,4BAD,4BI,4DAR,4EN,4GA,4GAR,4GUD,5PLUS GUD,4HA,4HAL,4HI TIMES NUN,4IGI GUNU,4IM,5PLUS HA",
    "6LU,4KI,4KIN,4KU3,4KUL,5PLUS HI PLUS A,4LAGAB,4LISH,4LU,4LUL,4ME,5PLUS EN,4MUSH,4NE,4SHE PLUS SUM",
    "4SHITA PLUS GISH PLUS ERIN2,7TENU,4SHU2,5PLUS SHU2,4SUM,4TAG,4TAK4,4TE PLUS A PLUS SU PLUS NA,4U",
    "5PLUS A,6U PLUS U,4U2 PLUS ASH,4UD,4USH,3SQUARED,2LAGAR,3TIMES SHE,5PLUS SUM,3GUNU",
    "4OVER LAGAR GUNU SHE,2LAHSHU,2LAL,3TIMES LAL,2LAM,3TIMES KUR,5PLUS RU,2LI,2LIL,2LIMMU2,2LISH,2LU",
    "3TIMES BAD,2LU2,3TIMES AL,4BAD,4ESH2,5TENU,4GAN2 TENU,4HI TIMES BAD,4IM,4KAD2,4KAD3,5PLUS ASH,4KI",
    "4LA PLUS ASH,4LAGAB,4ME PLUS EN,4NE,4NU,4SI PLUS ASH,4SIK2 PLUS BU,4TUG2,3TENU,3CROSSING LU2",
    "3OPPOSING LU2,3SQUARED,3SHESHIG,2LU3,2LUGAL,3OVER LUGAL,3OPPOSING LUGAL,3SHESHIG,2LUH,2LUL,2LUM",
    "3OVER LUM,5GAR OVER GAR,2MA,3TIMES TAK4,3GUNU,2MA2,2MAH,2MAR,2MASH,2MASH2,2ME,2MES,2MI,2MIN,2MU",
    "3OVER MU,2MUG,3GUNU,2MUNSUB,2MURGU2,2MUSH,3TIMES A,4KUR,4ZA,3OVER MUSH,5TIMES A PLUS NA,3CROSSING MUSH",
    "2MUSH3,3TIMES A,5PLUS DI,4DI,3GUNU,2NA,2NA2,2NAGA,3INVERTED,3TIMES SHU TENU,3OPPOSING NAGA,2NAGAR",
    "2NAM NUTILLU,2NAM,2NAM2,2NE,3TIMES A,4UD,3SHESHIG,2NI,3TIMES E,2NI2,2NIM,3TIMES GAN2 TENU",
    "4GAR PLUS GAN2 TENU,2NINDA2,3TIMES AN,4ASH,5PLUS ASH,4GUD,4ME PLUS GAN2 TENU,4NE,4NUN,4SHE,5PLUS A AN",
    "6ASH,7PLUS ASH,4U2 PLUS ASH,4USH,2NISAG,2NU,2NU11,2NUN,3LAGAR TIMES GAR,5MASH,5SAL",
    "6OVER NUN LAGAR TIMES SAL,5USH,3TENU,3OVER NUN,3CROSSING NUN,5LAGAR OVER LAGAR,2NUNUZ",
    "3AB2 TIMES ASHGAB,5BI,5DUG,5GUD,5IGI GUNU,5KAD3,5LA,5NE,5SILA3,5U2,3KISIM5 TIMES BI,6U,2PA,2PAD,2PAN",
    "2PAP,2PESH2,2PI,3TIMES A,4AB,4BI,4BU,4E,4I,4IB,4U,4U2,3CROSSING PI,2PIRIG,3TIMES KAL,4UD,4ZA",
    "3OPPOSING PIRIG,2RA,2RAB,2RI,2RU,2SA,2SAG NUTILLU,2SAG,3TIMES A,4DU,4DUB,4HA,4KAK,4KUR,4LUM,4MI,4NUN",
    "4SAL,4SHID,4TAB,4U2,4UB,4UM,4UR,4USH,3OVER SAG,3GUNU,2SAL,3LAGAB TIMES ASH2,2SANGA2,2SAR,2SHA,2SHA3",
    "3TIMES A,4BAD,4GISH,4NE,4SHU2,4TUR,4U,5PLUS A,2SHA6,2SHAB6,2SHAR2,2SHE,3HU",
    "3OVER SHE GAD OVER GAD GAR OVER GAR,5TAB OVER TAB GAR OVER GAR,2SHEG9,2SHEN,2SHESH,2SHESH2,2SHESHLAM",
    "2SHID,3TIMES A,4IM,2SHIM,3TIMES A,4BAL,4BULUG,4DIN,4GAR,4IGI,5GUNU,4KUSHU2,4LUL,4MUG,4SAL,2SHINIG",
    "2SHIR,3TENU,3OVER SHIR BUR OVER BUR,2SHITA,2SHU,3OVER INVERTED SHU,2SHU2,2SHUBUR,2SI,3GUNU,2SIG,2SIG4",
    "3OVER SIG4 SHU2,2SIK2,2SILA3,2SU,3OVER SU,2SUD,2SUD2,2SUHUR,2SUM,2SUMASH,2SUR,2SUR9,2TA,3ASTERISK",
    "3TIMES HI,4MI,3GUNU,2TAB,3OVER TAB NI OVER NI DISH OVER DISH,3SQUARED,2TAG,3TIMES BI,4GUD,4SHE,4SHU",
    "4TUG2,4UD,2TAK4,2TAR,2TE,3GUNU,2TI,3TENU,2TIL,2TIR,3TIMES TAK4,3OVER TIR,5GAD OVER GAD GAR OVER GAR",
    "2TU,2TUG2,2TUK,2TUM,2TUR,3OVER TUR ZA OVER ZA,2U,3GUD,3U U,3OVER U PA OVER PA GAR OVER GAR",
    "5SUR OVER SUR,5U REVERSED OVER U REVERSED,2U2,2UB,2UD,3KUSHU2,3TIMES BAD,4MI,4U PLUS U PLUS U,9GUNU",
    "3GUNU,3SHESHIG,4TIMES BAD,2UDUG,2UM,3TIMES LAGAB,4ME PLUS DA,4SHA3,4U,2UMBIN,2UMUM,3TIMES KASKAL,4PA",
    "2UN,3GUNU,2UR,3CROSSING UR,3SHESHIG,2UR2,3TIMES A PLUS HA,6NA,4AL,4HA,4NUN,4U2,5PLUS ASH,6BI,2UR4,2URI",
    "2URI3,2URU,3TIMES A,4ASHGAB,4BAR,4DUN,4GA,4GAL,4GAN2 TENU,4GAR,4GU,4HA,4IGI,4IM,4ISH,4KI,4LUM,4MIN,4PA",
    "4SHE,4SIG4,4TU,4U PLUS GUD,4UD,4URUDA,2URUDA,3TIMES U,2USH,3TIMES A,4KU,4KUR,4TAK4,2USHX,2USH2,2USHUMX",
    "2UTUKI,2UZ3,3TIMES KASKAL,2UZU,2ZA,3TENU,3SQUARED TIMES KUR,2ZAG,2ZAMX,2ZE2,2ZI,3OVER ZI,2ZI3,2ZIB",
    "3KABA TENU,2ZIG,2ZIZ2,2ZU,2ZU5,3TIMES A,2ZUBUR,2ZUM,2KAP ELAMITE,2AB TIMES NUN,2AB2 TIMES A",
    "2AMAR TIMES KUG,2DAG KISIM5 TIMES U2 PLUS MASH,2DAG3,2DISH PLUS SHU,2DUB TIMES SHE,2EZEN TIMES GUD",
    "4SHE,2GA2 TIMES AN PLUS KAK PLUS A,4ASH2,2GE22,2GIG,2HUSH,2KA TIMES ANSHE,4ASH3,4GISH,4GUD",
    "4HI TIMES ASH2,4LUM,4PA,4SHUL,4TU,4UR2,2LAGAB TIMES GI,2LU2 SHESHIG TIMES BAD,3TIMES ESH2 PLUS LAL",
    "4SHU,2MESH,2MUSH3 TIMES ZA,2NA4,2NIN,2NIN9,2NINDA2 TIMES BAL,4GI,2NU11 ROTATED NINETY DEGREES",
    "2PESH2 ASTERISK,2PIR2,2SAG TIMES IGI GUNU,2TI2,2UM TIMES ME,2U U,=12400 1NUMERIC SIGN TWO ASH",
    "3THREE ASH,3FOUR ASH,3FIVE ASH,3SIX ASH,3SEVEN ASH,3EIGHT ASH,3NINE ASH,3THREE DISH,3FOUR DISH",
    "3FIVE DISH,3SIX DISH,3SEVEN DISH,3EIGHT DISH,3NINE DISH,3FOUR U,3FIVE U,3SIX U,3SEVEN U,3EIGHT U",
    "3NINE U,3ONE GESH2,3TWO GESH2,3THREE GESH2,3FOUR GESH2,3FIVE GESH2,3SIX GESH2,3SEVEN GESH2",
    "3EIGHT GESH2,3NINE GESH2,3ONE GESHU,3TWO GESHU,3THREE GESHU,3FOUR GESHU,3FIVE GESHU,3TWO SHAR2",
    "3THREE SHAR2,5VARIANT FORM,3FOUR SHAR2,3FIVE SHAR2,3SIX SHAR2,3SEVEN SHAR2,3EIGHT SHAR2,3NINE SHAR2",
    "3ONE SHARU,3TWO SHARU,3THREE SHARU,5VARIANT FORM,3FOUR SHARU,3FIVE SHARU,3SHAR2 TIMES GAL PLUS DISH",
    "7MIN,3ONE BURU,3TWO BURU,3THREE BURU,5VARIANT FORM,3FOUR BURU,3FIVE BURU,3THREE VARIANT FORM ESH16",
    "6ESH21,3FOUR VARIANT FORM LIMMU,6LIMMU4,6LIMMU A,7B,3SIX VARIANT FORM ASH9,3SEVEN VARIANT FORM IMIN3",
    "6IMIN A,7B,3EIGHT VARIANT FORM USSU,6USSU3,3NINE VARIANT FORM ILIMMU,6ILIMMU3,6ILIMMU4,6ILIMMU A",
    "3TWO ASH TENU,3THREE ASH TENU,3FOUR ASH TENU,3FIVE ASH TENU,3SIX ASH TENU,3ONE BAN2,3TWO BAN2",
    "3THREE BAN2,3FOUR BAN2,5VARIANT FORM,3FIVE BAN2,5VARIANT FORM,3NIGIDAMIN,3NIGIDAESH,3ONE ESHE3",
    "3TWO ESHE3,3ONE THIRD DISH,3TWO THIRDS DISH,3FIVE SIXTHS DISH,3ONE THIRD VARIANT FORM A",
    "3TWO THIRDS VARIANT FORM A,3ONE EIGHTH ASH,4QUARTER ASH,3OLD ASSYRIAN ONE SIXTH,6QUARTER",
    "3ONE QUARTER GUR,4HALF GUR,3ELAMITE ONE THIRD,4TWO THIRDS,4FORTY,4FIFTY,3FOUR U VARIANT FORM",
    "3FIVE U VARIANT FORM,3SIX U VARIANT FORM,3SEVEN U VARIANT FORM,3EIGHT U VARIANT FORM",
    "3NINE U VARIANT FORM,=12470 1PUNCTUATION SIGN OLD ASSYRIAN WORD DIVIDER,3VERTICAL COLON",
    "3DIAGONAL COLON,4TRICOLON,4QUADCOLON,=12480 1SIGN AB TIMES NUN TENU,4SHU2,2AD TIMES ESH2",
    "2BAD TIMES DISH TENU,2BAHAR2 TIMES AB2,4NI,4ZA,2BU OVER BU TIMES NA2,2DA TIMES TAK4,2DAG TIMES KUR",
    "2DIM TIMES IGI,4U U U,2DIM2 TIMES UD,2DUG TIMES ANSHE,4ASH,5AT LEFT,4DIN,4DUN,4ERIN2,4GA,4GI",
    "4GIR2 GUNU,4GISH,4HA,4HI,4IGI GUNU,4KASKAL,4KUR,4KUSHU2,5PLUS KASKAL,4LAK-020,4LAM,5TIMES KUR",
    "4LUH PLUS GISH,4MASH,4MES,4MI,4NI,4PI,4SHE,4SI GUNU,2E2 TIMES KUR,4PAP,2ERIN2 X,2ESH2 CROSSING ESH2",
    "2EZEN SHESHIG TIMES ASH,5HI,5IGI GUNU,5LA,5LAL,5ME,5MES,5SU,3TIMES SU,2GA2 TIMES BAHAR2,4DIM GUNU",
    "4DUG TIMES IGI GUNU,6KASKAL,4EREN,4GA,4GAR PLUS DI,6NE,4HA PLUS A,4KUSHU2 PLUS KASKAL,4LAM,5TIMES KUR",
    "4LUH,4MUSH,4NE,5PLUS E2,6GI,4SHIM,4ZIZ2,2GABA ROTATED NINETY DEGREES,2GESHTIN TIMES U",
    "2GISH TIMES GISH CROSSING GISH,2GU2 TIMES IGI GUNU,2GUD PLUS GISH TIMES TAK4,2HA TENU GUNU",
    "2HI TIMES ASH OVER HI TIMES ASH,2KA TIMES BU,4KA,4U U U,4UR,2LAGAB TIMES ZU OVER ZU,2LAK-003,2LAK-021",
    "2LAK-025,2LAK-030,2LAK-050,2LAK-051,2LAK-062,2LAK-079 OVER LAK-079 GUNU,2LAK-080,2LAK-081 OVER LAK-081",
    "2LAK-092,2LAK-130,2LAK-142,2LAK-210,2LAK-219,2LAK-220,2LAK-225,2LAK-228,2LAK-238,2LAK-265,2LAK-266",
    "2LAK-343,2LAK-347,2LAK-348,2LAK-383,2LAK-384,2LAK-390,2LAK-441,2LAK-449,3TIMES GU,4IGI,4PAP PLUS LU3",
    "6PAP PLUS LU3,4U2 PLUS BA,2LAK-450,2LAK-457,2LAK-470,2LAK-483,2LAK-490,2LAK-492,2LAK-493,2LAK-495",
    "2LAK-550,2LAK-608,2LAK-617,3TIMES ASH,4BAD,4DUN3 GUNU GUNU,4KU3,4LA,4TAR,4TE,4U2,4UD,4URUDA,2LAK-636",
    "2LAK-648,3TIMES DUB,4GA,4IGI,5GUNU,4NI,4PAP PLUS PAP PLUS LU3,4SHESH PLUS KI,4UD,4URUDA,2LAK-724",
    "2LAK-749,2LU2 GUNU TIMES ASH,3TIMES DISH,4HAL,4PAP,5PLUS PAP PLUS LU3,4TAK4,2MI PLUS ZA7",
    "2MUSH OVER MUSH TIMES GA,6KAK,2NINDA2 TIMES DIM GUNU,4GISH,4GUL,4HI,4KESH2,4LAK-050,4MASH",
    "4PAP PLUS PAP,4U,5PLUS U,4URUDA,2SAG GUNU TIMES HA,3TIMES EN,4SHE AT LEFT,4TAK4,2SHA6 TENU",
    "2SHE OVER SHE,3PLUS HUB2,4NAM2,4SAR,2SHU2 PLUS DUG TIMES NI,4E2 TIMES AN,2SI TIMES TAK4,2TAK4 PLUS SAG",
    "2TUM TIMES GAN2 TENU,4THREE DISH,2UR2 INVERTED,3TIMES UD,2URU TIMES DARA3,4LAK-668,4LU3,2ZA7",
    "2ZU OVER ZU PLUS SAR,2ZU5 TIMES THREE DISH TENU,=12F90 0CYPRO-MINOAN SIGN CM001,2CM002,2CM004,2CM005",
    "2CM006,2CM007,2CM008,2CM009,2CM010,2CM011,2CM012,2CM012B,2CM013,2CM015,2CM017,2CM019,2CM021,2CM023",
    "2CM024,2CM025,2CM026,2CM027,2CM028,2CM029,2CM030,2CM033,2CM034,2CM035,2CM036,2CM037,2CM038,2CM039",
    "2CM040,2CM041,2CM044,2CM046,2CM047,2CM049,2CM050,2CM051,2CM052,2CM053,2CM054,2CM055,2CM056,2CM058",
    "2CM059,2CM060,2CM061,2CM062,2CM063,2CM064,2CM066,2CM067,2CM068,2CM069,2CM070,2CM071,2CM072,2CM073",
    "2CM074,2CM075,2CM075B,2CM076,2CM078,2CM079,2CM080,2CM081,2CM082,2CM083,2CM084,2CM085,2CM086,2CM087",
    "2CM088,2CM089,2CM090,2CM091,2CM092,2CM094,2CM095,2CM096,2CM097,2CM098,2CM099,2CM100,2CM101,2CM102",
    "2CM103,2CM104,2CM105,2CM107,2CM108,2CM109,2CM110,2CM112,2CM114,2CM301,2CM302",
    "=13000 0EGYPTIAN HIEROGLYPH A001,2A002,2A003,2A004,2A005,2A005A,2A006,2A006A,2A006B,2A007,2A008,2A009",
    "2A010,2A011,2A012,2A013,2A014,2A014A,2A015,2A016,2A017,2A017A,2A018,2A019,2A020,2A021,2A022,2A023",
    "2A024,2A025,2A026,2A027,2A028,2A029,2A030,2A031,2A032,2A032A,2A033,2A034,2A035,2A036,2A037,2A038,2A039",
    "2A040,2A040A,2A041,2A042,2A042A,2A043,2A043A,2A044,2A045,2A045A,2A046,2A047,2A048,2A049,2A050,2A051",
    "2A052,2A053,2A054,2A055,2A056,2A057,2A058,2A059,2A060,2A061,2A062,2A063,2A064,2A065,2A066,2A067,2A068",
    "2A069,2A070,2B001,2B002,2B003,2B004,2B005,2B005A,2B006,2B007,2B008,2B009,2C001,2C002,2C002A,2C002B",
    "2C002C,2C003,2C004,2C005,2C006,2C007,2C008,2C009,2C010,2C010A,2C011,2C012,2C013,2C014,2C015,2C016",
    "2C017,2C018,2C019,2C020,2C021,2C022,2C023,2C024,2D001,2D002,2D003,2D004,2D005,2D006,2D007,2D008,2D008A",
    "2D009,2D010,2D011,2D012,2D013,2D014,2D015,2D016,2D017,2D018,2D019,2D020,2D021,2D022,2D023,2D024,2D025",
    "2D026,2D027,2D027A,2D028,2D029,2D030,2D031,2D031A,2D032,2D033,2D034,2D034A,2D035,2D036,2D037,2D038",
    "2D039,2D040,2D041,2D042,2D043,2D044,2D045,2D046,2D046A,2D047,2D048,2D048A,2D049,2D050,2D050A,2D050B",
    "2D050C,2D050D,2D050E,2D050F,2D050G,2D050H,2D050I,2D051,2D052,2D052A,2D053,2D054,2D054A,2D055,2D056",
    "2D057,2D058,2D059,2D060,2D061,2D062,2D063,2D064,2D065,2D066,2D067,2D067A,2D067B,2D067C,2D067D,2D067E",
    "2D067F,2D067G,2D067H,2E001,2E002,2E003,2E004,2E005,2E006,2E007,2E008,2E008A,2E009,2E009A,2E010,2E011",
    "2E012,2E013,2E014,2E015,2E016,2E016A,2E017,2E017A,2E018,2E019,2E020,2E020A,2E021,2E022,2E023,2E024",
    "2E025,2E026,2E027,2E028,2E028A,2E029,2E030,2E031,2E032,2E033,2E034,2E034A,2E036,2E037,2E038,2F001",
    "2F001A,2F002,2F003,2F004,2F005,2F006,2F007,2F008,2F009,2F010,2F011,2F012,2F013,2F013A,2F014,2F015",
    "2F016,2F017,2F018,2F019,2F020,2F021,2F021A,2F022,2F023,2F024,2F025,2F026,2F027,2F028,2F029,2F030,2F031",
    "2F031A,2F032,2F033,2F034,2F035,2F036,2F037,2F037A,2F038,2F038A,2F039,2F040,2F041,2F042,2F043,2F044",
    "2F045,2F045A,2F046,2F046A,2F047,2F047A,2F048,2F049,2F050,2F051,2F051A,2F051B,2F051C,2F052,2F053,2G001",
    "2G002,2G003,2G004,2G005,2G006,2G006A,2G007,2G007A,2G007B,2G008,2G009,2G010,2G011,2G011A,2G012,2G013",
    "2G014,2G015,2G016,2G017,2G018,2G019,2G020,2G020A,2G021,2G022,2G023,2G024,2G025,2G026,2G026A,2G027",
    "2G028,2G029,2G030,2G031,2G032,2G033,2G034,2G035,2G036,2G036A,2G037,2G037A,2G038,2G039,2G040,2G041",
    "2G042,2G043,2G043A,2G044,2G045,2G045A,2G046,2G047,2G048,2G049,2G050,2G051,2G052,2G053,2G054,2H001",
    "2H002,2H003,2H004,2H005,2H006,2H006A,2H007,2H008,2I001,2I002,2I003,2I004,2I005,2I005A,2I006,2I007",
    "2I008,2I009,2I009A,2I010,2I010A,2I011,2I011A,2I012,2I013,2I014,2I015,2K001,2K002,2K003,2K004,2K005",
    "2K006,2K007,2K008,2L001,2L002,2L002A,2L003,2L004,2L005,2L006,2L006A,2L007,2L008,2M001,2M001A,2M001B",
    "2M002,2M003,2M003A,2M004,2M005,2M006,2M007,2M008,2M009,2M010,2M010A,2M011,2M012,2M012A,2M012B,2M012C",
    "2M012D,2M012E,2M012F,2M012G,2M012H,2M013,2M014,2M015,2M015A,2M016,2M016A,2M017,2M017A,2M018,2M019",
    "2M020,2M021,2M022,2M022A,2M023,2M024,2M024A,2M025,2M026,2M027,2M028,2M028A,2M029,2M030,2M031,2M031A",
    "2M032,2M033,2M033A,2M033B,2M034,2M035,2M036,2M037,2M038,2M039,2M040,2M040A,2M041,2M042,2M043,2M044",
    "2N001,2N002,2N003,2N004,2N005,2N006,2N007,2N008,2N009,2N010,2N011,2N012,2N013,2N014,2N015,2N016,2N017",
    "2N018,2N018A,2N018B,2N019,2N020,2N021,2N022,2N023,2N024,2N025,2N025A,2N026,2N027,2N028,2N029,2N030",
    "2N031,2N032,2N033,2N033A,2N034,2N034A,2N035,2N035A,2N036,2N037,2N037A,2N038,2N039,2N040,2N041,2N042",
    "2NL001,2NL002,2NL003,2NL004,2NL005,2NL005A,2NL006,2NL007,2NL008,2NL009,2NL010,2NL011,2NL012,2NL013",
    "2NL014,2NL015,2NL016,2NL017,2NL017A,2NL018,2NL019,2NL020,2NU001,2NU002,2NU003,2NU004,2NU005,2NU006",
    "2NU007,2NU008,2NU009,2NU010,2NU010A,2NU011,2NU011A,2NU012,2NU013,2NU014,2NU015,2NU016,2NU017,2NU018",
    "2NU018A,2NU019,2NU020,2NU021,2NU022,2NU022A,2O001,2O001A,2O002,2O003,2O004,2O005,2O005A,2O006,2O006A",
    "2O006B,2O006C,2O006D,2O006E,2O006F,2O007,2O008,2O009,2O010,2O010A,2O010B,2O010C,2O011,2O012,2O013",
    "2O014,2O015,2O016,2O017,2O018,2O019,2O019A,2O020,2O020A,2O021,2O022,2O023,2O024,2O024A,2O025,2O025A",
    "2O026,2O027,2O028,2O029,2O029A,2O030,2O030A,2O031,2O032,2O033,2O033A,2O034,2O035,2O036,2O036A,2O036B",
    "2O036C,2O036D,2O037,2O038,2O039,2O040,2O041,2O042,2O043,2O044,2O045,2O046,2O047,2O048,2O049,2O050",
    "2O050A,2O050B,2O051,2P001,2P001A,2P002,2P003,2P003A,2P004,2P005,2P006,2P007,2P008,2P009,2P010,2P011",
    "2Q001,2Q002,2Q003,2Q004,2Q005,2Q006,2Q007,2R001,2R002,2R002A,2R003,2R003A,2R003B,2R004,2R005,2R006",
    "2R007,2R008,2R009,2R010,2R010A,2R011,2R012,2R013,2R014,2R015,2R016,2R016A,2R017,2R018,2R019,2R020",
    "2R021,2R022,2R023,2R024,2R025,2R026,2R027,2R028,2R029,2S001,2S002,2S002A,2S003,2S004,2S005,2S006",
    "2S006A,2S007,2S008,2S009,2S010,2S011,2S012,2S013,2S014,2S014A,2S014B,2S015,2S016,2S017,2S017A,2S018",
    "2S019,2S020,2S021,2S022,2S023,2S024,2S025,2S026,2S026A,2S026B,2S027,2S028,2S029,2S030,2S031,2S032",
    "2S033,2S034,2S035,2S035A,2S036,2S037,2S038,2S039,2S040,2S041,2S042,2S043,2S044,2S045,2S046,2T001,2T002",
    "2T003,2T003A,2T004,2T005,2T006,2T007,2T007A,2T008,2T008A,2T009,2T009A,2T010,2T011,2T011A,2T012,2T013",
    "2T014,2T015,2T016,2T016A,2T017,2T018,2T019,2T020,2T021,2T022,2T023,2T024,2T025,2T026,2T027,2T028,2T029",
    "2T030,2T031,2T032,2T032A,2T033,2T033A,2T034,2T035,2T036,2U001,2U002,2U003,2U004,2U005,2U006,2U006A",
    "2U006B,2U007,2U008,2U009,2U010,2U011,2U012,2U013,2U014,2U015,2U016,2U017,2U018,2U019,2U020,2U021,2U022",
    "2U023,2U023A,2U024,2U025,2U026,2U027,2U028,2U029,2U029A,2U030,2U031,2U032,2U032A,2U033,2U034,2U035",
    "2U036,2U037,2U038,2U039,2U040,2U041,2U042,2V001,2V001A,2V001B,2V001C,2V001D,2V001E,2V001F,2V001G",
    "2V001H,2V001I,2V002,2V002A,2V003,2V004,2V005,2V006,2V007,2V007A,2V007B,2V008,2V009,2V010,2V011,2V011A",
    "2V011B,2V011C,2V012,2V012A,2V012B,2V013,2V014,2V015,2V016,2V017,2V018,2V019,2V020,2V020A,2V020B,2V020C",
    "2V020D,2V020E,2V020F,2V020G,2V020H,2V020I,2V020J,2V020K,2V020L,2V021,2V022,2V023,2V023A,2V024,2V025",
    "2V026,2V027,2V028,2V028A,2V029,2V029A,2V030,2V030A,2V031,2V031A,2V032,2V033,2V033A,2V034,2V035,2V036",
    "2V037,2V037A,2V038,2V039,2V040,2V040A,2W001,2W002,2W003,2W003A,2W004,2W005,2W006,2W007,2W008,2W009",
    "2W009A,2W010,2W010A,2W011,2W012,2W013,2W014,2W014A,2W015,2W016,2W017,2W017A,2W018,2W018A,2W019,2W020",
    "2W021,2W022,2W023,2W024,2W024A,2W025,2X001,2X002,2X003,2X004,2X004A,2X004B,2X005,2X006,2X006A,2X007",
    "2X008,2X008A,2Y001,2Y001A,2Y002,2Y003,2Y004,2Y005,2Y006,2Y007,2Y008,2Z001,2Z002,2Z002A,2Z002B,2Z002C",
    "2Z002D,2Z003,2Z003A,2Z003B,2Z004,2Z004A,2Z005,2Z005A,2Z006,2Z007,2Z008,2Z009,2Z010,2Z011,2Z012,2Z013",
    "2Z014,2Z015,2Z015A,2Z015B,2Z015C,2Z015D,2Z015E,2Z015F,2Z015G,2Z015H,2Z015I,2Z016,2Z016A,2Z016B,2Z016C",
    "2Z016D,2Z016E,2Z016F,2Z016G,2Z016H,2AA001,2AA002,2AA003,2AA004,2AA005,2AA006,2AA007,2AA007A,2AA007B",
    "2AA008,2AA009,2AA010,2AA011,2AA012,2AA013,2AA014,2AA015,2AA016,2AA017,2AA018,2AA019,2AA020,2AA021",
    "2AA022,2AA023,2AA024,2AA025,2AA026,2AA027,2AA028,2AA029,2AA030,2AA031,2AA032,=13430 2VERTICAL JOINER",
    "2HORIZONTAL JOINER,2INSERT AT TOP START,4BOTTOM START,4TOP END,4BOTTOM END,2OVERLAY MIDDLE",
    "2BEGIN SEGMENT,2END SEGMENT"]

end Untrack.Unicode.Names
