/-
  Untrack.Unicode.Names.From1B000 — names of the characters from 1B000 up to 1D3FF.
-/

namespace Untrack.Unicode.Names

def from1B000 : List String :=
  ["=1B000 0KATAKANA LETTER ARCHAIC E,0HIRAGANA LETTER ARCHAIC YE,0HENTAIGANA LETTER A-1,2A-2,2A-3,2A-WO",
    "2I-1,2I-2,2I-3,2I-4,2U-1,2U-2,2U-3,2U-4,2U-5,2E-2,2E-3,2E-4,2E-5,2E-6,2O-1,2O-2,2O-3,2KA-1,2KA-2,2KA-3",
    "2KA-4,2KA-5,2KA-6,2KA-7,2KA-8,2KA-9,2KA-10,2KA-11,2KA-KE,2KI-1,2KI-2,2KI-3,2KI-4,2KI-5,2KI-6,2KI-7",
    "2KI-8,2KU-1,2KU-2,2KU-3,2KU-4,2KU-5,2KU-6,2KU-7,2KE-1,2KE-2,2KE-3,2KE-4,2KE-5,2KE-6,2KO-1,2KO-2,2KO-3",
    "2KO-KI,2SA-1,2SA-2,2SA-3,2SA-4,2SA-5,2SA-6,2SA-7,2SA-8,2SI-1,2SI-2,2SI-3,2SI-4,2SI-5,2SI-6,2SU-1,2SU-2",
    "2SU-3,2SU-4,2SU-5,2SU-6,2SU-7,2SU-8,2SE-1,2SE-2,2SE-3,2SE-4,2SE-5,2SO-1,2SO-2,2SO-3,2SO-4,2SO-5,2SO-6",
    "2SO-7,2TA-1,2TA-2,2TA-3,2TA-4,2TI-1,2TI-2,2TI-3,2TI-4,2TI-5,2TI-6,2TI-7,2TU-1,2TU-2,2TU-3,2TU-4,2TU-TO",
    "2TE-1,2TE-2,2TE-3,2TE-4,2TE-5,2TE-6,2TE-7,2TE-8,2TE-9,2TO-1,2TO-2,2TO-3,2TO-4,2TO-5,2TO-6,2TO-RA,2NA-1",
    "2NA-2,2NA-3,2NA-4,2NA-5,2NA-6,2NA-7,2NA-8,2NA-9,2NI-1,2NI-2,2NI-3,2NI-4,2NI-5,2NI-6,2NI-7,2NI-TE,2NU-1",
    "2NU-2,2NU-3,2NE-1,2NE-2,2NE-3,2NE-4,2NE-5,2NE-6,2NE-KO,2NO-1,2NO-2,2NO-3,2NO-4,2NO-5,2HA-1,2HA-2,2HA-3",
    "2HA-4,2HA-5,2HA-6,2HA-7,2HA-8,2HA-9,2HA-10,2HA-11,2HI-1,2HI-2,2HI-3,2HI-4,2HI-5,2HI-6,2HI-7,2HU-1",
    "2HU-2,2HU-3,2HE-1,2HE-2,2HE-3,2HE-4,2HE-5,2HE-6,2HE-7,2HO-1,2HO-2,2HO-3,2HO-4,2HO-5,2HO-6,2HO-7,2HO-8",
    "2MA-1,2MA-2,2MA-3,2MA-4,2MA-5,2MA-6,2MA-7,2MI-1,2MI-2,2MI-3,2MI-4,2MI-5,2MI-6,2MI-7,2MU-1,2MU-2,2MU-3",
    "2MU-4,2ME-1,2ME-2,2ME-MA,2MO-1,2MO-2,2MO-3,2MO-4,2MO-5,2MO-6,2YA-1,2YA-2,2YA-3,2YA-4,2YA-5,2YA-YO",
    "2YU-1,2YU-2,2YU-3,2YU-4,2YO-1,2YO-2,2YO-3,2YO-4,2YO-5,2YO-6,2RA-1,2RA-2,2RA-3,2RA-4,2RI-1,2RI-2,2RI-3",
    "2RI-4,2RI-5,2RI-6,2RI-7,2RU-1,2RU-2,2RU-3,2RU-4,2RU-5,2RU-6,2RE-1,2RE-2,2RE-3,2RE-4,2RO-1,2RO-2,2RO-3",
    "2RO-4,2RO-5,2RO-6,2WA-1,2WA-2,2WA-3,2WA-4,2WA-5,2WI-1,2WI-2,2WI-3,2WI-4,2WI-5,2WE-1,2WE-2,2WE-3,2WE-4",
    "2WO-1,2WO-2,2WO-3,2WO-4,2WO-5,2WO-6,2WO-7,2N-MU-MO-1,2N-MU-MO-2,0HIRAGANA LETTER ARCHAIC WU",
    "0KATAKANA LETTER ARCHAIC YI,3YE,3WU,=1B150 0HIRAGANA LETTER SMALL WI,3WE,3WO",
    "=1B164 0KATAKANA LETTER SMALL WI,3WE,3WO,3N,=1BC00 0DUPLOYAN LETTER H,2X,2P,2T,2F,2K,2L,2B,2D,2V,2G,2R",
    "2P N,2D S,2F N,2K M,2R S,2TH,2SLOAN DH,2DH,2KK,2SLOAN J,2HL,2LH,2RH,2M,2N,2J,2S,2M N,2N M,2J M,2S J",
    "2M WITH DOT,2N WITH DOT,2J WITH DOT,4DOTS INSIDE AND ABOVE,2S WITH DOT,5BELOW,2M S,2N S,2J S,2S S",
    "2M N S,2N M S,2J M S,2S J S,2J S WITH DOT,3N,4S,2S T,4R,3P,4R,2T S,3R S,2W,2WH,2W R,2S N,3M,2K R S",
    "2G R S,2S K,4R,2A,2SLOAN OW,2OA,2O,2AOU,2I,2E,2IE,2SHORT I,2UI,2EE,2SLOAN EH,2ROMANIAN I,2SLOAN EE",
    "2LONG I,2YE,2U,2EU,2XW,2U N,2LONG U,2ROMANIAN U,2UH,2SLOAN U,2OOH,2OW,2OU,2WA,2WO,2WI,2WEI,2WOW",
    "2NASAL U,3O,3I,3A,2PERNIN AN,3AM,2SLOAN EN,3AN,3ON,2VOCALIC M,=1BC70 1AFFIX LEFT HORIZONTAL SECANT",
    "2MID HORIZONTAL SECANT,2RIGHT HORIZONTAL SECANT,2LOW VERTICAL SECANT,2MID VERTICAL SECANT",
    "2HIGH VERTICAL SECANT,2ATTACHED SECANT,3LEFT-TO-RIGHT SECANT,3TANGENT,3TAIL,3E HOOK,3I HOOK",
    "3TANGENT HOOK,=1BC80 2HIGH ACUTE,3TIGHT ACUTE,3GRAVE,3LONG GRAVE,3DOT,3CIRCLE,3LINE,3WAVE,3VERTICAL",
    "=1BC90 2LOW ACUTE,3TIGHT ACUTE,3GRAVE,3LONG GRAVE,3DOT,3CIRCLE,3LINE,3WAVE,3VERTICAL,3ARROW",
    "=1BC9C 1SIGN O WITH CROSS,1THICK LETTER SELECTOR,1DOUBLE MARK,1PUNCTUATION CHINOOK FULL STOP",
    "0SHORTHAND FORMAT LETTER OVERLAP,2CONTINUING OVERLAP,2DOWN STEP,2UP STEP",
    "=1CF00 0ZNAMENNY COMBINING MARK GORAZDO NIZKO S KRYZHEM ON LEFT,3NIZKO S KRYZHEM ON LEFT",
    "3TSATA ON LEFT,3GORAZDO NIZKO ON LEFT,3NIZKO ON LEFT,3SREDNE ON LEFT,3MALO POVYSHE ON LEFT",
    "3POVYSHE ON LEFT,3VYSOKO ON LEFT,3MALO POVYSHE S KHOKHLOM ON LEFT,3POVYSHE S KHOKHLOM ON LEFT",
    "3VYSOKO S KHOKHLOM ON LEFT,3GORAZDO NIZKO S KRYZHEM ON RIGHT,3NIZKO S KRYZHEM ON RIGHT,3TSATA ON RIGHT",
    "3GORAZDO NIZKO ON RIGHT,3NIZKO ON RIGHT,3SREDNE ON RIGHT,3MALO POVYSHE ON RIGHT,3POVYSHE ON RIGHT",
    "3VYSOKO ON RIGHT,3MALO POVYSHE S KHOKHLOM ON RIGHT,3POVYSHE S KHOKHLOM ON RIGHT",
    "3VYSOKO S KHOKHLOM ON RIGHT,3TSATA S KRYZHEM,3MALO POVYSHE S KRYZHEM,3STRANNO MALO POVYSHE",
    "3POVYSHE S KRYZHEM,4STRANNO,3VYSOKO S KRYZHEM,3MALO POVYSHE STRANNO,3GORAZDO VYSOKO,3ZELO,3ON,3RAVNO",
    "3TIKHAYA,3BORZAYA,3UDARKA,3PODVERTKA,3LOMKA,3KUPNAYA,3KACHKA,3ZEVOK,3SKOBA,3RAZSEKA,3KRYZH ON LEFT",
    "=1CF30 2TONAL RANGE MARK MRACHNO,5SVETLO,5TRESVETLO,2MARK ZADERZHKA,3DEMESTVENNY ZADERZHKA,3OTSECHKA",
    "3PODCHASHIE,4WITH VERTICAL STROKE,3CHASHKA,4POLNAYA,3OBLACHKO,3SOROCHYA NOZHKA,3TOCHKA,3DVOETOCHIE",
    "2ATTACHING VERTICAL OMET,2MARK CURVED OMET,3KRYZH,2LOWER TONAL RANGE INDICATOR",
    "1PRIZNAK MODIFIER LEVEL-2,3LEVEL-3,3DIRECTION FLIP,3KRYZH,3ROG,=1CF50 1NEUME KRYUK,3TIKHY,2PARAKLIT",
    "2DVA V CHELNU,2KLYUCH,2ZANOZHEK,2STOPITSA,3S OCHKOM,2PEREVODKA,3NEPOSTOYANNAYA",
    "2STOPITSA WITH SOROCHYA NOZHKA,2CHELYUSTKA,2PALKA,2ZAPYATAYA,2GOLUBCHIK BORZY,3TIKHY,3MRACHNY,3SVETLY",
    "3TRESVETLY,2VRAKHIYA PROSTAYA,3MRACHNAYA,3SVETLAYA,3TRESVETLAYA,3KLYUCHEVAYA PROSTAYA,4MRACHNAYA",
    "4SVETLAYA,4TRESVETLAYA,2DOUBLE ZAPYATAYA,2REVERSED CHELYUSTKA,2DERBITSA,2KHAMILO,2CHASHKA,2PODCHASHIE",
    "2SKAMEYTSA MRACHNAYA,3SVETLAYA,3TRESVETLAYA,3TIKHAYA,2DEMESTVENNY KLYUCH",
    "2SKAMEYTSA KLYUCHEVAYA SVETLAYA,3KLYUCHENEPOSTOYANNAYA,3KLYUCHEVAYA TIKHAYA,3DVOECHELNAYA PROSTAYA",
    "4SVETLAYA,4NEPOSTOYANNAYA,4KLYUCHEVAYA,2SLOZHITIE,3S ZAPYATOY,3ZAKRYTOE,3S KRYZHEM,2KRYZH,2ROG,2FITA",
    "2KOBYLA,2ZMEYTSA,2STATYA,3S ZAPYATOY,4KRYZHEM,4ZAPYATOY I KRYZHEM,4KRYZHEM I ZAPYATOY,3ZAKRYTAYA",
    "4S ZAPYATOY,3S ROGOM,4DVUMYA ZAPYATYMI,4ZAPYATOY I PODCHASHIEM,2POLKULIZMY,2STATYA NEPOSTOYANNAYA",
    "2STRELA PROSTAYA,3MRACHNOTIKHAYA,3KRYZHEVAYA,3POLUPOVODNAYA,3POVODNAYA,3NEPOSTOYANNAYA",
    "3KLYUCHEPOVODNAYA,3KLYUCHENEPOSTOYANNAYA,3TIKHAYA PUTNAYA,3DVOECHELNAYA,3DVOECHELNOKRYZHEVAYA",
    "3DVOECHELNOPOVODNAYA,3DVOECHELNAYA KLYUCHEVAYA,3DVOECHELNOPOVODNAYA KLYUCHEVAYA",
    "3GROMNAYA WITH SINGLE ZAPYATAYA,3GROMOPOVODNAYA WITH SINGLE ZAPYATAYA,3GROMNAYA,3GROMOPOVODNAYA",
    "4WITH DOUBLE ZAPYATAYA,3GROMOKRYZHEVAYA,4POVODNAYA,2MECHIK,3POVODNY,3KLYUCHEVOY,3KLYUCHEPOVODNY",
    "3KLYUCHENEPOSTOYANNY,2STRELA TRYASOGLASNAYA,3TRYASOPOVODNAYA,3TRYASOSTRELNAYA,2OSOKA,3SVETLAYA",
    "3TRESVETLAYA,3KRYUKOVAYA SVETLAYA,3KLYUCHEVAYA SVETLAYA,4NEPOSTOYANNAYA,2STRELA KRYUKOVAYA,4POVODNAYA",
    "4GROMNAYA WITH SINGLE ZAPYATAYA,4GROMOPOVODNAYA WITH SINGLE ZAPYATAYA,4GROMNAYA,4GROMOPOVODNAYA",
    "5WITH DOUBLE ZAPYATAYA,4GROMOKRYZHEVAYA,5POVODNAYA,4TRYASKA,2KUFISMA,2OBLAKO,2DUDA,2NEMKA,2PAUK",
    "=1D000 0BYZANTINE MUSICAL SYMBOL PSILI,3DASEIA,3PERISPOMENI,3OXEIA EKFONITIKON,4DIPLI",
    "3VAREIA EKFONITIKON,4DIPLI,3KATHISTI,3SYRMATIKI,3PARAKLITIKI,3YPOKRISIS,4DIPLI,3KREMASTI",
    "3APESO EKFONITIKON,3EXO EKFONITIKON,3TELEIA,3KENTIMATA,3APOSTROFOS,4DIPLI,3SYNEVMA,3THITA",
    "3OLIGON ARCHAION,3GORGON ARCHAION,3PSILON,3CHAMILON,3VATHY,3ISON ARCHAION,3KENTIMA ARCHAION",
    "3KENTIMATA ARCHAION,3SAXIMATA,3PARICHON,3STAVROS APODEXIA,3OXEIAI ARCHAION,3VAREIAI ARCHAION",
    "3APODERMA ARCHAION,3APOTHEMA,3KLASMA,3REVMA,3PIASMA ARCHAION,3TINAGMA,3ANATRICHISMA,3SEISMA",
    "3SYNAGMA ARCHAION,4META STAVROU,3OYRANISMA ARCHAION,3THEMA,3LEMOI,3DYO,3TRIA,3TESSERA,3KRATIMATA",
    "3APESO EXO NEO,3FTHORA ARCHAION,3IMIFTHORA,3TROMIKON ARCHAION,3KATAVA TROMIKON,3PELASTON,3PSIFISTON",
    "3KONTEVMA,3CHOREVMA ARCHAION,3RAPISMA,3PARAKALESMA ARCHAION,3PARAKLITIKI ARCHAION,3ICHADIN,3NANA",
    "3PETASMA,3KONTEVMA ALLO,3TROMIKON ALLO,3STRAGGISMATA,3GRONTHISMATA,3ISON NEO,3OLIGON NEO,3OXEIA NEO",
    "3PETASTI,3KOUFISMA,3PETASTOKOUFISMA,3KRATIMOKOUFISMA,3PELASTON NEO,3KENTIMATA NEO ANO,3KENTIMA NEO ANO",
    "3YPSILI,3APOSTROFOS NEO,3APOSTROFOI SYNDESMOS NEO,3YPORROI,3KRATIMOYPORROON,3ELAFRON,3CHAMILI",
    "3MIKRON ISON,3VAREIA NEO,3PIASMA NEO,3PSIFISTON NEO,3OMALON,3ANTIKENOMA,3LYGISMA,3PARAKLITIKI NEO",
    "3PARAKALESMA NEO,3ETERON PARAKALESMA,3KYLISMA,3ANTIKENOKYLISMA,3TROMIKON NEO,3EKSTREPTON,3SYNAGMA NEO",
    "3SYRMA,3CHOREVMA NEO,3EPEGERMA,3SEISMA NEO,3XIRON KLASMA,3TROMIKOPSIFISTON,3PSIFISTOLYGISMA",
    "3TROMIKOLYGISMA,3TROMIKOPARAKALESMA,3PSIFISTOPARAKALESMA,3TROMIKOSYNAGMA,3PSIFISTOSYNAGMA",
    "3GORGOSYNTHETON,3ARGOSYNTHETON,3ETERON ARGOSYNTHETON,3OYRANISMA NEO,3THEMATISMOS ESO,4EXO",
    "3THEMA APLOUN,3THES KAI APOTHES,3KATAVASMA,3ENDOFONON,3YFEN KATO,4ANO,3STAVROS,3KLASMA ANO",
    "3DIPLI ARCHAION,3KRATIMA ARCHAION,4ALLO,4NEO,3APODERMA NEO,3APLI,3DIPLI,3TRIPLI,3TETRAPLI,3KORONIS",
    "3LEIMMA ENOS CHRONOU,4DYO CHRONON,4TRION CHRONON,4TESSARON CHRONON,4IMISEOS CHRONOU,3GORGON NEO ANO",
    "4PARESTIGMENON ARISTERA,5DEXIA,3DIGORGON,4PARESTIGMENON ARISTERA KATO,6ANO,5DEXIA,3TRIGORGON,3ARGON",
    "3IMIDIARGON,3DIARGON,3AGOGI POLI ARGI,4ARGOTERI,4ARGI,4METRIA,4MESI,4GORGI,4GORGOTERI,4POLI GORGI",
    "3MARTYRIA PROTOS ICHOS,4ALLI PROTOS ICHOS,4DEYTEROS ICHOS,4ALLI DEYTEROS ICHOS,4TRITOS ICHOS",
    "4TRIFONIAS,4TETARTOS ICHOS,5LEGETOS ICHOS,4LEGETOS ICHOS,4PLAGIOS ICHOS,3ISAKIA TELOUS ICHIMATOS",
    "3APOSTROFOI TELOUS ICHIMATOS,3FANEROSIS TETRAFONIAS,4MONOFONIAS,4DIFONIAS,3MARTYRIA VARYS ICHOS",
    "4PROTOVARYS ICHOS,4PLAGIOS TETARTOS ICHOS,3GORTHMIKON N APLOUN,5DIPLOUN,3ENARXIS KAI FTHORA VOU",
    "3IMIFONON,3IMIFTHORON,3FTHORA ARCHAION DEYTEROU ICHOU,4DIATONIKI PA,5NANA,4NAOS ICHOS,4DIATONIKI DI",
    "4SKLIRON DIATONON DI,4DIATONIKI KE,5ZO,5NI KATO,6ANO,4MALAKON CHROMA DIFONIAS,6MONOFONIAS",
    "3FHTORA SKLIRON CHROMA VASIS,3FTHORA SKLIRON CHROMA SYNAFI,4NENANO,3CHROA ZYGOS,4KLITON,4SPATHI",
    "3FTHORA I YFESIS TETARTIMORION,4ENARMONIOS ANTIFONIA,3YFESIS TRITIMORION,3DIESIS TRITIMORION",
    "4TETARTIMORION,4APLI DYO DODEKATA,4MONOGRAMMOS TESSERA DODEKATA,4DIGRAMMOS EX DODEKATA",
    "4TRIGRAMMOS OKTO DODEKATA,3YFESIS APLI DYO DODEKATA,4MONOGRAMMOS TESSERA DODEKATA",
    "4DIGRAMMOS EX DODEKATA,4TRIGRAMMOS OKTO DODEKATA,3GENIKI DIESIS,4YFESIS,3DIASTOLI APLI MIKRI,5MEGALI",
    "4DIPLI,4THESEOS,3SIMANSIS THESEOS,5DISIMOU,5TRISIMOU,5TETRASIMOU,4ARSEOS,5DISIMOU,5TRISIMOU",
    "5TETRASIMOU,3DIGRAMMA GG,3DIFTOGGOS OU,3STIGMA,3ARKTIKO PA,4VOU,4GA,4DI,4KE,4ZO,4NI",
    "3KENTIMATA NEO MESO,3KENTIMA NEO MESO,3KENTIMATA NEO KATO,3KENTIMA NEO KATO,3KLASMA KATO",
    "3GORGON NEO KATO,=1D100 0MUSICAL SYMBOL SINGLE BARLINE,2DOUBLE BARLINE,2FINAL BARLINE",
    "2REVERSE FINAL BARLINE,2DASHED BARLINE,2SHORT BARLINE,2LEFT REPEAT SIGN,2RIGHT REPEAT SIGN",
    "2REPEAT DOTS,2DAL SEGNO,2DA CAPO,2SEGNO,2CODA,2REPEATED FIGURE-1,3FIGURE-2,3FIGURE-3,2FERMATA,3BELOW",
    "2BREATH MARK,2CAESURA,2BRACE,2BRACKET,2ONE-LINE STAFF,2TWO-LINE STAFF,2THREE-LINE STAFF",
    "2FOUR-LINE STAFF,2FIVE-LINE STAFF,2SIX-LINE STAFF,2SIX-STRING FRETBOARD,2FOUR-STRING FRETBOARD,2G CLEF",
    "4OTTAVA ALTA,5BASSA,2C CLEF,2F CLEF,4OTTAVA ALTA,5BASSA,2DRUM CLEF-1,3CLEF-2",
    "=1D129 2MULTIPLE MEASURE REST,2DOUBLE SHARP,3FLAT,2FLAT UP,3DOWN,2NATURAL UP,3DOWN,2SHARP UP,3DOWN",
    "2QUARTER TONE SHARP,4FLAT,2COMMON TIME,2CUT TIME,2OTTAVA ALTA,3BASSA,2QUINDICESIMA ALTA,3BASSA",
    "2MULTI REST,2WHOLE REST,2HALF REST,2QUARTER REST,2EIGHTH REST,2SIXTEENTH REST,2THIRTY-SECOND REST",
    "2SIXTY-FOURTH REST,2ONE HUNDRED TWENTY-EIGHTH REST,2X NOTEHEAD,2PLUS NOTEHEAD,2CIRCLE X NOTEHEAD",
    "2SQUARE NOTEHEAD WHITE,4BLACK,2TRIANGLE NOTEHEAD UP WHITE,5BLACK,4LEFT WHITE,5BLACK,4RIGHT WHITE",
    "5BLACK,4DOWN WHITE,5BLACK,4UP RIGHT WHITE,6BLACK,2MOON NOTEHEAD WHITE,4BLACK",
    "2TRIANGLE-ROUND NOTEHEAD DOWN WHITE,5BLACK,2PARENTHESIS NOTEHEAD,2VOID NOTEHEAD,2NOTEHEAD BLACK",
    "2NULL NOTEHEAD,2CLUSTER NOTEHEAD WHITE,4BLACK,2BREVE,2WHOLE NOTE,2HALF NOTE,2QUARTER NOTE,2EIGHTH NOTE",
    "2SIXTEENTH NOTE,2THIRTY-SECOND NOTE,2SIXTY-FOURTH NOTE,2ONE HUNDRED TWENTY-EIGHTH NOTE,2COMBINING STEM",
    "3SPRECHGESANG STEM,3TREMOLO-1,3TREMOLO-2,3TREMOLO-3,2FINGERED TREMOLO-1,3TREMOLO-2,3TREMOLO-3",
    "2COMBINING AUGMENTATION DOT,3FLAG-1,3FLAG-2,3FLAG-3,3FLAG-4,3FLAG-5,2BEGIN BEAM,2END BEAM,2BEGIN TIE",
    "2END TIE,2BEGIN SLUR,2END SLUR,2BEGIN PHRASE,2END PHRASE,2COMBINING ACCENT,3STACCATO,3TENUTO",
    "3STACCATISSIMO,3MARCATO,3MARCATO-STACCATO,3ACCENT-STACCATO,3LOURE,2ARPEGGIATO UP,3DOWN,2COMBINING DOIT",
    "3RIP,3FLIP,3SMEAR,3BEND,3DOUBLE TONGUE,3TRIPLE TONGUE,2RINFORZANDO,2SUBITO,2Z,2PIANO,2MEZZO,2FORTE",
    "2CRESCENDO,2DECRESCENDO,2GRACE NOTE SLASH,4NO SLASH,2TR,2TURN,2INVERTED TURN,2TURN SLASH,3UP",
    "2ORNAMENT STROKE-1,3STROKE-2,3STROKE-3,3STROKE-4,3STROKE-5,3STROKE-6,3STROKE-7,3STROKE-8,3STROKE-9",
    "3STROKE-10,3STROKE-11,2HAUPTSTIMME,2NEBENSTIMME,2END OF STIMME,2DEGREE SLASH,2COMBINING DOWN BOW",
    "3UP BOW,3HARMONIC,3SNAP PIZZICATO,2PEDAL MARK,3UP MARK,2HALF PEDAL MARK,2GLISSANDO UP,3DOWN",
    "2WITH FINGERNAILS,2DAMP,3ALL,2MAXIMA,2LONGA,2BREVIS,2SEMIBREVIS WHITE,3BLACK,2MINIMA,3BLACK",
    "2SEMIMINIMA WHITE,3BLACK,2FUSA WHITE,3BLACK,2LONGA PERFECTA REST,3IMPERFECTA REST,2BREVIS REST",
    "2SEMIBREVIS REST,2MINIMA REST,2SEMIMINIMA REST,2TEMPUS PERFECTUM CUM PROLATIONE PERFECTA,6IMPERFECTA",
    "6PERFECTA DIMINUTION-1,3IMPERFECTUM CUM PROLATIONE PERFECTA,6IMPERFECTA,7DIMINUTION-1,7DIMINUTION-2",
    "7DIMINUTION-3,2CROIX,2GREGORIAN C CLEF,3F CLEF,2SQUARE B,2VIRGA,2PODATUS,2CLIVIS,2SCANDICUS,2CLIMACUS",
    "2TORCULUS,2PORRECTUS,3FLEXUS,2SCANDICUS FLEXUS,2TORCULUS RESUPINUS,2PES SUBPUNCTIS,2KIEVAN C CLEF",
    "3END OF PIECE,3FINAL NOTE,3RECITATIVE MARK,3WHOLE NOTE,3HALF NOTE,3QUARTER NOTE STEM DOWN,6UP",
    "3EIGHTH NOTE STEM DOWN,6UP,3FLAT SIGN,2SORI,2KORON,=1D200 0GREEK VOCAL NOTATION SYMBOL-1,3SYMBOL-2",
    "3SYMBOL-3,3SYMBOL-4,3SYMBOL-5,3SYMBOL-6,3SYMBOL-7,3SYMBOL-8,3SYMBOL-9,3SYMBOL-10,3SYMBOL-11,3SYMBOL-12",
    "3SYMBOL-13,3SYMBOL-14,3SYMBOL-15,3SYMBOL-16,3SYMBOL-17,3SYMBOL-18,3SYMBOL-19,3SYMBOL-20,3SYMBOL-21",
    "3SYMBOL-22,3SYMBOL-23,3SYMBOL-24,3SYMBOL-50,3SYMBOL-51,3SYMBOL-52,3SYMBOL-53,3SYMBOL-54",
    "1INSTRUMENTAL NOTATION SYMBOL-1,3SYMBOL-2,3SYMBOL-4,3SYMBOL-5,3SYMBOL-7,3SYMBOL-8,3SYMBOL-11",
    "3SYMBOL-12,3SYMBOL-13,3SYMBOL-14,3SYMBOL-17,3SYMBOL-18,3SYMBOL-19,3SYMBOL-23,3SYMBOL-24,3SYMBOL-25",
    "3SYMBOL-26,3SYMBOL-27,3SYMBOL-29,3SYMBOL-30,3SYMBOL-32,3SYMBOL-36,3SYMBOL-37,3SYMBOL-38,3SYMBOL-39",
    "3SYMBOL-40,3SYMBOL-42,3SYMBOL-43,3SYMBOL-45,3SYMBOL-47,3SYMBOL-48,3SYMBOL-49,3SYMBOL-50,3SYMBOL-51",
    "3SYMBOL-52,3SYMBOL-53,3SYMBOL-54,0COMBINING GREEK MUSICAL TRISEME,3TETRASEME,3PENTASEME",
    "0GREEK MUSICAL LEIMMA,=1D2E0 0MAYAN NUMERAL ZERO,2ONE,2TWO,2THREE,2FOUR,2FIVE,2SIX,2SEVEN,2EIGHT,2NINE",
    "2TEN,2ELEVEN,2TWELVE,2THIRTEEN,2FOURTEEN,2FIFTEEN,2SIXTEEN,2SEVENTEEN,2EIGHTEEN,2NINETEEN",
    "=1D300 0MONOGRAM FOR EARTH,0DIGRAM FOR HEAVENLY EARTH,2HUMAN EARTH,2EARTHLY HEAVEN,3HUMAN,2EARTH",
    "0TETRAGRAM FOR CENTRE,2FULL CIRCLE,2MIRED,2BARRIER,2KEEPING SMALL,2CONTRARIETY,2ASCENT,2OPPOSITION",
    "2BRANCHING OUT,2DEFECTIVENESS OR DISTORTION,2DIVERGENCE,2YOUTHFULNESS,2INCREASE,2PENETRATION,2REACH",
    "2CONTACT,2HOLDING BACK,2WAITING,2FOLLOWING,2ADVANCE,2RELEASE,2RESISTANCE,2EASE,2JOY,2CONTENTION",
    "2ENDEAVOUR,2DUTIES,2CHANGE,2DECISIVENESS,2BOLD RESOLUTION,2PACKING,2LEGION,2CLOSENESS,2KINSHIP",
    "2GATHERING,2STRENGTH,2PURITY,2FULLNESS,2RESIDENCE,2LAW OR MODEL,2RESPONSE,2GOING TO MEET,2ENCOUNTERS",
    "2STOVE,2GREATNESS,2ENLARGEMENT,2PATTERN,2RITUAL,2FLIGHT,2VASTNESS OR WASTING,2CONSTANCY,2MEASURE",
    "2ETERNITY,2UNITY,2DIMINISHMENT,2CLOSED MOUTH,2GUARDEDNESS,2GATHERING IN,2MASSING,2ACCUMULATION",
    "2EMBELLISHMENT,2DOUBT,2WATCH,2SINKING,2INNER,2DEPARTURE,2DARKENING,2DIMMING,2EXHAUSTION,2SEVERANCE",
    "2STOPPAGE,2HARDNESS,2COMPLETION,2CLOSURE,2FAILURE,2AGGRAVATION,2COMPLIANCE,2ON THE VERGE,2DIFFICULTIES",
    "2LABOURING,2FOSTERING,=1D360 0COUNTING ROD UNIT DIGIT ONE,4TWO,4THREE,4FOUR,4FIVE,4SIX,4SEVEN,4EIGHT",
    "4NINE,2TENS DIGIT ONE,4TWO,4THREE,4FOUR,4FIVE,4SIX,4SEVEN,4EIGHT,4NINE,0IDEOGRAPHIC TALLY MARK ONE",
    "3TWO,3THREE,3FOUR,3FIVE,0TALLY MARK ONE,2FIVE"]

end Untrack.Unicode.Names
