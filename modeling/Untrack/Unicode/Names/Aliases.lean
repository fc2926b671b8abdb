/-
  Untrack.Unicode.Names.Aliases — further names: of characters without a name, corrections of names, and
  abbreviations. Each is followed by its code point.
-/

namespace Untrack.Unicode.Names

def aliases : List String :=
  ["NUL=0,NULL=0,SOH=1,START OF HEADING=1,START OF TEXT=2,STX=2,END OF TEXT=3,ETX=3,END OF TRANSMISSION=4",
    "EOT=4,ENQ=5,ENQUIRY=5,ACK=6,ACKNOWLEDGE=6,ALERT=7,BEL=7,BACKSPACE=8,BS=8,CHARACTER TABULATION=9",
    "HORIZONTAL TABULATION=9,HT=9,TAB=9,END OF LINE=A,EOL=A,LF=A,LINE FEED=A,NEW LINE=A,NL=A",
    "LINE TABULATION=B,VERTICAL TABULATION=B,VT=B,FF=C,FORM FEED=C,CARRIAGE RETURN=D,CR=D",
    "LOCKING-SHIFT ONE=E,SHIFT OUT=E,SO=E,LOCKING-SHIFT ZERO=F,SHIFT IN=F,SI=F,DATA LINK ESCAPE=10,DLE=10",
    "DC1=11,DEVICE CONTROL ONE=11,DC2=12,DEVICE CONTROL TWO=12,DC3=13,DEVICE CONTROL THREE=13,DC4=14",
    "DEVICE CONTROL FOUR=14,NAK=15,NEGATIVE ACKNOWLEDGE=15,SYN=16,SYNCHRONOUS IDLE=16",
    "END OF TRANSMISSION BLOCK=17,ETB=17,CAN=18,CANCEL=18,END OF MEDIUM=19,EOM=19,SUB=1A,SUBSTITUTE=1A",
    "ESC=1B,ESCAPE=1B,FILE SEPARATOR=1C,FS=1C,INFORMATION SEPARATOR FOUR=1C,GROUP SEPARATOR=1D,GS=1D",
    "INFORMATION SEPARATOR THREE=1D,INFORMATION SEPARATOR TWO=1E,RECORD SEPARATOR=1E,RS=1E",
    "INFORMATION SEPARATOR ONE=1F,UNIT SEPARATOR=1F,US=1F,SP=20,DEL=7F,DELETE=7F,PAD=80",
    "PADDING CHARACTER=80,HIGH OCTET PRESET=81,HOP=81,BPH=82,BREAK PERMITTED HERE=82,NBH=83",
    "NO BREAK HERE=83,IND=84,INDEX=84,NEL=85,NEXT LINE=85,SSA=86,START OF SELECTED AREA=86",
    "END OF SELECTED AREA=87,ESA=87,CHARACTER TABULATION SET=88,HORIZONTAL TABULATION SET=88,HTS=88",
    "CHARACTER TABULATION WITH JUSTIFICATION=89,HORIZONTAL TABULATION WITH JUSTIFICATION=89,HTJ=89",
    "LINE TABULATION SET=8A,VERTICAL TABULATION SET=8A,VTS=8A,PARTIAL LINE DOWN=8B,PARTIAL LINE FORWARD=8B",
    "PLD=8B,PARTIAL LINE BACKWARD=8C,PARTIAL LINE UP=8C,PLU=8C,REVERSE INDEX=8D,REVERSE LINE FEED=8D,RI=8D",
    "SINGLE SHIFT TWO=8E,SINGLE-SHIFT-2=8E,SS2=8E,SINGLE SHIFT THREE=8F,SINGLE-SHIFT-3=8F,SS3=8F,DCS=90",
    "DEVICE CONTROL STRING=90,PRIVATE USE ONE=91,PRIVATE USE-1=91,PU1=91,PRIVATE USE TWO=92",
    "PRIVATE USE-2=92,PU2=92,SET TRANSMIT STATE=93,STS=93,CANCEL CHARACTER=94,CCH=94,MESSAGE WAITING=95",
    "MW=95,SPA=96,START OF GUARDED AREA=96,START OF PROTECTED AREA=96,END OF GUARDED AREA=97",
    "END OF PROTECTED AREA=97,EPA=97,SOS=98,START OF STRING=98,SGC=99",
    "SINGLE GRAPHIC CHARACTER INTRODUCER=99,SCI=9A,SINGLE CHARACTER INTRODUCER=9A",
    "CONTROL SEQUENCE INTRODUCER=9B,CSI=9B,ST=9C,STRING TERMINATOR=9C,OPERATING SYSTEM COMMAND=9D,OSC=9D",
    "PM=9E,PRIVACY MESSAGE=9E,APC=9F,APPLICATION PROGRAM COMMAND=9F,NBSP=A0,SHY=AD",
    "LATIN CAPITAL LETTER GHA=1A2,LATIN SMALL LETTER GHA=1A3,CGJ=34F,ALM=61C",
    "SYRIAC SUBLINEAR COLON SKEWED LEFT=709,KANNADA LETTER LLLA=CDE,LAO LETTER FO FON=E9D",
    "LAO LETTER FO FAY=E9F,LAO LETTER RO=EA3,LAO LETTER LO=EA5,TIBETAN MARK BKA- SHOG GI MGO RGYAN=FD0",
    "HANGUL JONGSEONG YESIEUNG-KIYEOK=11EC,HANGUL JONGSEONG YESIEUNG-SSANGKIYEOK=11ED",
    "HANGUL JONGSEONG SSANGYESIEUNG=11EE,HANGUL JONGSEONG YESIEUNG-KHIEUKH=11EF,FVS1=180B,FVS2=180C",
    "FVS3=180D,MVS=180E,FVS4=180F,ZWSP=200B,ZWNJ=200C,ZWJ=200D,LRM=200E,RLM=200F,LRE=202A,RLE=202B,PDF=202C",
    "LRO=202D,RLO=202E,NNBSP=202F,MMSP=205F,WJ=2060,LRI=2066,RLI=2067,FSI=2068,PDI=2069",
    "WEIERSTRASS ELLIPTIC FUNCTION=2118,MICR ON US SYMBOL=2448,MICR DASH SYMBOL=2449",
    "LEFTWARDS TRIANGLE-HEADED ARROW WITH DOUBLE VERTICAL STROKE=2B7A",
    "RIGHTWARDS TRIANGLE-HEADED ARROW WITH DOUBLE VERTICAL STROKE=2B7C,YI SYLLABLE ITERATION MARK=A015",
    "MYANMAR LETTER KHAMTI LLA=AA6E,PRESENTATION FORM FOR VERTICAL RIGHT WHITE LENTICULAR BRACKET=FE18",
    "BOM=FEFF,BYTE ORDER MARK=FEFF,ZWNBSP=FEFF,CUNEIFORM SIGN NU11 TENU=122D4",
    "CUNEIFORM SIGN NU11 OVER NU11 BUR OVER BUR=122D5,MEDEFAIDRIN CAPITAL LETTER H=16E56",
    "MEDEFAIDRIN CAPITAL LETTER NG=16E57,MEDEFAIDRIN SMALL LETTER H=16E76,MEDEFAIDRIN SMALL LETTER NG=16E77",
    "HENTAIGANA LETTER E-1=1B001,BYZANTINE MUSICAL SYMBOL FTHORA SKLIRON CHROMA VASIS=1D0C5"]

end Untrack.Unicode.Names
