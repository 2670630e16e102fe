import ReportCard.Text.CharacterName.Basic

/-!
# Names of characters: Indic

The names of the scripts of India and its neighbours, U+0900 to U+10FF.
-/

namespace ReportCard.Text

/-- The names of the scripts of India and its neighbours. -/
def indicNames : List NameRun :=
  [⟨0x900, ["0DEVANAGARI SIGN INVERTED CANDRABINDU;2CANDRABINDU;2ANUSVARA;2VISARGA;1LETTER SHORT A;2A;2AA;2I;2II;2U",
     "2UU;2VOCALIC R;3L;2CANDRA E;2SHORT~;2E;2AI;2CANDRA O;2SHORT~;2O;2AU;2KA;2KHA;2GA;2GHA;2NGA;2CA;2CHA;2JA;2JHA",
     "2NYA;2TTA;2TTHA;2DDA;2DDHA;2NNA;2TA;2THA;2DA;2DHA;2NA;2NNNA;2PA;2PHA;2BA;2BHA;2MA;2YA;2RA;2RRA;2LA;2LLA;2LLLA",
     "2VA;2SHA;2SSA;2SA;2HA;1VOWEL SIGN OE;3OOE;1SIGN NUKTA;2AVAGRAHA;1VOWEL SIGN AA;3I;3II;3U;3UU;3VOCALIC R;4RR",
     "3CANDRA E;3SHORT~;3E;3AI;3CANDRA O;3SHORT~;3O;3AU;1SIGN VIRAMA;1VOWEL SIGN PRISHTHAMATRA E;3AW;1OM",
     "1STRESS SIGN UDATTA;3ANUDATTA;1GRAVE ACCENT;1ACUTE~;1VOWEL SIGN CANDRA LONG E;3UE;3UUE;1LETTER QA;2KHHA;2GHHA",
     "2ZA;2DDDHA;2RHA;2FA;2YYA;2VOCALIC RR;3LL;1VOWEL SIGN VOCALIC L;4LL;1DANDA;1DOUBLE DANDA;1DIGIT ZERO;2ONE;2TWO",
     "2THREE;2FOUR;2FIVE;2SIX;2SEVEN;2EIGHT;2NINE;1ABBREVIATION SIGN;1SIGN HIGH SPACING DOT;1LETTER CANDRA A;2OE",
     "2OOE;2AW;2UE;2UUE;2MARWARI DDA;2ZHA;2HEAVY YA;2GGA;2JJA;2GLOTTAL STOP;2DDDA;2BBA;0BENGALI ANJI",
     "1SIGN CANDRABINDU;2ANUSVARA;2VISARGA"]⟩,
   ⟨0x985, ["0BENGALI LETTER A;2AA;2I;2II;2U;2UU;2VOCALIC R;3L"]⟩,
   ⟨0x98F, ["0BENGALI LETTER E;2AI"]⟩,
   ⟨0x993, ["0BENGALI LETTER O;2AU;2KA;2KHA;2GA;2GHA;2NGA;2CA;2CHA;2JA;2JHA;2NYA;2TTA;2TTHA;2DDA;2DDHA;2NNA;2TA",
     "2THA;2DA;2DHA;2NA"]⟩,
   ⟨0x9AA, ["0BENGALI LETTER PA;2PHA;2BA;2BHA;2MA;2YA;2RA"]⟩,
   ⟨0x9B2, ["0BENGALI LETTER LA"]⟩,
   ⟨0x9B6, ["0BENGALI LETTER SHA;2SSA;2SA;2HA"]⟩,
   ⟨0x9BC, ["0BENGALI SIGN NUKTA;2AVAGRAHA;1VOWEL SIGN AA;3I;3II;3U;3UU;3VOCALIC R;4RR"]⟩,
   ⟨0x9C7, ["0BENGALI VOWEL SIGN E;3AI"]⟩,
   ⟨0x9CB, ["0BENGALI VOWEL SIGN O;3AU;1SIGN VIRAMA;1LETTER KHANDA TA"]⟩,
   ⟨0x9D7, ["0BENGALI AU LENGTH MARK"]⟩,
   ⟨0x9DC, ["0BENGALI LETTER RRA;2RHA"]⟩,
   ⟨0x9DF, ["0BENGALI LETTER YYA;2VOCALIC RR;3LL;1VOWEL SIGN VOCALIC L;4LL"]⟩,
   ⟨0x9E6, ["0BENGALI DIGIT ZERO;2ONE;2TWO;2THREE;2FOUR;2FIVE;2SIX;2SEVEN;2EIGHT;2NINE",
     "1LETTER RA WITH MIDDLE DIAGONAL;4LOWER~;1RUPEE MARK;2SIGN;1CURRENCY NUMERATOR ONE;3TWO;3THREE;3FOUR",
     "3ONE LESS THAN THE DENOMINATOR;2DENOMINATOR SIXTEEN;1ISSHAR;1GANDA MARK;1LETTER VEDIC ANUSVARA",
     "1ABBREVIATION SIGN;1SANDHI MARK"]⟩,
   ⟨0xA01, ["0GURMUKHI SIGN ADAK BINDI;2BINDI;2VISARGA"]⟩,
   ⟨0xA05, ["0GURMUKHI LETTER A;2AA;2I;2II;2U;2UU"]⟩,
   ⟨0xA0F, ["0GURMUKHI LETTER EE;2AI"]⟩,
   ⟨0xA13, ["0GURMUKHI LETTER OO;2AU;2KA;2KHA;2GA;2GHA;2NGA;2CA;2CHA;2JA;2JHA;2NYA;2TTA;2TTHA;2DDA;2DDHA;2NNA;2TA",
     "2THA;2DA;2DHA;2NA"]⟩,
   ⟨0xA2A, ["0GURMUKHI LETTER PA;2PHA;2BA;2BHA;2MA;2YA;2RA"]⟩,
   ⟨0xA32, ["0GURMUKHI LETTER LA;2LLA"]⟩,
   ⟨0xA35, ["0GURMUKHI LETTER VA;2SHA"]⟩,
   ⟨0xA38, ["0GURMUKHI LETTER SA;2HA"]⟩,
   ⟨0xA3C, ["0GURMUKHI SIGN NUKTA"]⟩,
   ⟨0xA3E, ["0GURMUKHI VOWEL SIGN AA;3I;3II;3U;3UU"]⟩,
   ⟨0xA47, ["0GURMUKHI VOWEL SIGN EE;3AI"]⟩,
   ⟨0xA4B, ["0GURMUKHI VOWEL SIGN OO;3AU;1SIGN VIRAMA"]⟩,
   ⟨0xA51, ["0GURMUKHI SIGN UDAAT"]⟩,
   ⟨0xA59, ["0GURMUKHI LETTER KHHA;2GHHA;2ZA;2RRA"]⟩,
   ⟨0xA5E, ["0GURMUKHI LETTER FA"]⟩,
   ⟨0xA66, ["0GURMUKHI DIGIT ZERO;2ONE;2TWO;2THREE;2FOUR;2FIVE;2SIX;2SEVEN;2EIGHT;2NINE;1TIPPI;1ADDAK;1IRI;1URA",
     "1EK ONKAR;1SIGN YAKASH;1ABBREVIATION SIGN"]⟩,
   ⟨0xA81, ["0GUJARATI SIGN CANDRABINDU;2ANUSVARA;2VISARGA"]⟩,
   ⟨0xA85, ["0GUJARATI LETTER A;2AA;2I;2II;2U;2UU;2VOCALIC R;3L;1VOWEL CANDRA E"]⟩,
   ⟨0xA8F, ["0GUJARATI LETTER E;2AI;1VOWEL CANDRA O"]⟩,
   ⟨0xA93, ["0GUJARATI LETTER O;2AU;2KA;2KHA;2GA;2GHA;2NGA;2CA;2CHA;2JA;2JHA;2NYA;2TTA;2TTHA;2DDA;2DDHA;2NNA;2TA",
     "2THA;2DA;2DHA;2NA"]⟩,
   ⟨0xAAA, ["0GUJARATI LETTER PA;2PHA;2BA;2BHA;2MA;2YA;2RA"]⟩,
   ⟨0xAB2, ["0GUJARATI LETTER LA;2LLA"]⟩,
   ⟨0xAB5, ["0GUJARATI LETTER VA;2SHA;2SSA;2SA;2HA"]⟩,
   ⟨0xABC, ["0GUJARATI SIGN NUKTA;2AVAGRAHA;1VOWEL SIGN AA;3I;3II;3U;3UU;3VOCALIC R;4RR;3CANDRA E"]⟩,
   ⟨0xAC7, ["0GUJARATI VOWEL SIGN E;3AI;3CANDRA O"]⟩,
   ⟨0xACB, ["0GUJARATI VOWEL SIGN O;3AU;1SIGN VIRAMA"]⟩,
   ⟨0xAD0, ["0GUJARATI OM"]⟩,
   ⟨0xAE0, ["0GUJARATI LETTER VOCALIC RR;3LL;1VOWEL SIGN VOCALIC L;4LL"]⟩,
   ⟨0xAE6, ["0GUJARATI DIGIT ZERO;2ONE;2TWO;2THREE;2FOUR;2FIVE;2SIX;2SEVEN;2EIGHT;2NINE;1ABBREVIATION SIGN;1RUPEE~"]⟩,
   ⟨0xAF9, ["0GUJARATI LETTER ZHA;1SIGN SUKUN;2SHADDA;2MADDAH;2THREE-DOT NUKTA ABOVE;2CIRCLE~;2TWO-CIRCLE~"]⟩,
   ⟨0xB01, ["0ORIYA SIGN CANDRABINDU;2ANUSVARA;2VISARGA"]⟩,
   ⟨0xB05, ["0ORIYA LETTER A;2AA;2I;2II;2U;2UU;2VOCALIC R;3L"]⟩,
   ⟨0xB0F, ["0ORIYA LETTER E;2AI"]⟩,
   ⟨0xB13, ["0ORIYA LETTER O;2AU;2KA;2KHA;2GA;2GHA;2NGA;2CA;2CHA;2JA;2JHA;2NYA;2TTA;2TTHA;2DDA;2DDHA;2NNA;2TA;2THA",
     "2DA;2DHA;2NA"]⟩,
   ⟨0xB2A, ["0ORIYA LETTER PA;2PHA;2BA;2BHA;2MA;2YA;2RA"]⟩,
   ⟨0xB32, ["0ORIYA LETTER LA;2LLA"]⟩,
   ⟨0xB35, ["0ORIYA LETTER VA;2SHA;2SSA;2SA;2HA"]⟩,
   ⟨0xB3C, ["0ORIYA SIGN NUKTA;2AVAGRAHA;1VOWEL SIGN AA;3I;3II;3U;3UU;3VOCALIC R;4RR"]⟩,
   ⟨0xB47, ["0ORIYA VOWEL SIGN E;3AI"]⟩,
   ⟨0xB4B, ["0ORIYA VOWEL SIGN O;3AU;1SIGN VIRAMA"]⟩,
   ⟨0xB55, ["0ORIYA SIGN OVERLINE;1AI LENGTH MARK;1AU~"]⟩,
   ⟨0xB5C, ["0ORIYA LETTER RRA;2RHA"]⟩,
   ⟨0xB5F, ["0ORIYA LETTER YYA;2VOCALIC RR;3LL;1VOWEL SIGN VOCALIC L;4LL"]⟩,
   ⟨0xB66, ["0ORIYA DIGIT ZERO;2ONE;2TWO;2THREE;2FOUR;2FIVE;2SIX;2SEVEN;2EIGHT;2NINE;1ISSHAR;1LETTER WA",
     "1FRACTION ONE QUARTER;3HALF;2THREE QUARTERS;2ONE SIXTEENTH;3EIGHTH;2THREE SIXTEENTHS"]⟩,
   ⟨0xB82, ["0TAMIL SIGN ANUSVARA;2VISARGA"]⟩,
   ⟨0xB85, ["0TAMIL LETTER A;2AA;2I;2II;2U;2UU"]⟩,
   ⟨0xB8E, ["0TAMIL LETTER E;2EE;2AI"]⟩,
   ⟨0xB92, ["0TAMIL LETTER O;2OO;2AU;2KA"]⟩,
   ⟨0xB99, ["0TAMIL LETTER NGA;2CA"]⟩,
   ⟨0xB9C, ["0TAMIL LETTER JA"]⟩,
   ⟨0xB9E, ["0TAMIL LETTER NYA;2TTA"]⟩,
   ⟨0xBA3, ["0TAMIL LETTER NNA;2TA"]⟩,
   ⟨0xBA8, ["0TAMIL LETTER NA;2NNNA;2PA"]⟩,
   ⟨0xBAE, ["0TAMIL LETTER MA;2YA;2RA;2RRA;2LA;2LLA;2LLLA;2VA;2SHA;2SSA;2SA;2HA"]⟩,
   ⟨0xBBE, ["0TAMIL VOWEL SIGN AA;3I;3II;3U;3UU"]⟩,
   ⟨0xBC6, ["0TAMIL VOWEL SIGN E;3EE;3AI"]⟩,
   ⟨0xBCA, ["0TAMIL VOWEL SIGN O;3OO;3AU;1SIGN VIRAMA"]⟩,
   ⟨0xBD0, ["0TAMIL OM"]⟩,
   ⟨0xBD7, ["0TAMIL AU LENGTH MARK"]⟩,
   ⟨0xBE6, ["0TAMIL DIGIT ZERO;2ONE;2TWO;2THREE;2FOUR;2FIVE;2SIX;2SEVEN;2EIGHT;2NINE;1NUMBER TEN;2ONE HUNDRED",
     "3THOUSAND;1DAY SIGN;1MONTH~;1YEAR~;1DEBIT~;1CREDIT~;1AS ABOVE SIGN;1RUPEE SIGN;1NUMBER~"]⟩,
   ⟨0xC00, ["0TELUGU SIGN COMBINING CANDRABINDU ABOVE;2CANDRABINDU;2ANUSVARA;2VISARGA;2COMBINING ANUSVARA ABOVE",
     "1LETTER A;2AA;2I;2II;2U;2UU;2VOCALIC R;3L"]⟩,
   ⟨0xC0E, ["0TELUGU LETTER E;2EE;2AI"]⟩,
   ⟨0xC12, ["0TELUGU LETTER O;2OO;2AU;2KA;2KHA;2GA;2GHA;2NGA;2CA;2CHA;2JA;2JHA;2NYA;2TTA;2TTHA;2DDA;2DDHA;2NNA;2TA",
     "2THA;2DA;2DHA;2NA"]⟩,
   ⟨0xC2A, ["0TELUGU LETTER PA;2PHA;2BA;2BHA;2MA;2YA;2RA;2RRA;2LA;2LLA;2LLLA;2VA;2SHA;2SSA;2SA;2HA"]⟩,
   ⟨0xC3C, ["0TELUGU SIGN NUKTA;2AVAGRAHA;1VOWEL SIGN AA;3I;3II;3U;3UU;3VOCALIC R;4RR"]⟩,
   ⟨0xC46, ["0TELUGU VOWEL SIGN E;3EE;3AI"]⟩,
   ⟨0xC4A, ["0TELUGU VOWEL SIGN O;3OO;3AU;1SIGN VIRAMA"]⟩,
   ⟨0xC55, ["0TELUGU LENGTH MARK;1AI LENGTH MARK"]⟩,
   ⟨0xC58, ["0TELUGU LETTER TSA;2DZA;2RRRA"]⟩,
   ⟨0xC5D, ["0TELUGU LETTER NAKAARA POLLU"]⟩,
   ⟨0xC60, ["0TELUGU LETTER VOCALIC RR;3LL;1VOWEL SIGN VOCALIC L;4LL"]⟩,
   ⟨0xC66, ["0TELUGU DIGIT ZERO;2ONE;2TWO;2THREE;2FOUR;2FIVE;2SIX;2SEVEN;2EIGHT;2NINE"]⟩,
   ⟨0xC77, ["0TELUGU SIGN SIDDHAM;1FRACTION DIGIT ZERO FOR ODD POWERS OF FOUR;3ONE~;3TWO~;3THREE~;3ONE FOR EVEN~",
     "3TWO~;3THREE~;1SIGN TUUMU;0KANNADA SIGN SPACING CANDRABINDU;2CANDRABINDU;2ANUSVARA;2VISARGA;2SIDDHAM",
     "1LETTER A;2AA;2I;2II;2U;2UU;2VOCALIC R;3L"]⟩,
   ⟨0xC8E, ["0KANNADA LETTER E;2EE;2AI"]⟩,
   ⟨0xC92, ["0KANNADA LETTER O;2OO;2AU;2KA;2KHA;2GA;2GHA;2NGA;2CA;2CHA;2JA;2JHA;2NYA;2TTA;2TTHA;2DDA;2DDHA;2NNA;2TA",
     "2THA;2DA;2DHA;2NA"]⟩,
   ⟨0xCAA, ["0KANNADA LETTER PA;2PHA;2BA;2BHA;2MA;2YA;2RA;2RRA;2LA;2LLA"]⟩,
   ⟨0xCB5, ["0KANNADA LETTER VA;2SHA;2SSA;2SA;2HA"]⟩,
   ⟨0xCBC, ["0KANNADA SIGN NUKTA;2AVAGRAHA;1VOWEL SIGN AA;3I;3II;3U;3UU;3VOCALIC R;4RR"]⟩,
   ⟨0xCC6, ["0KANNADA VOWEL SIGN E;3EE;3AI"]⟩,
   ⟨0xCCA, ["0KANNADA VOWEL SIGN O;3OO;3AU;1SIGN VIRAMA"]⟩,
   ⟨0xCD5, ["0KANNADA LENGTH MARK;1AI LENGTH MARK"]⟩,
   ⟨0xCDD, ["0KANNADA LETTER NAKAARA POLLU;2FA"]⟩,
   ⟨0xCE0, ["0KANNADA LETTER VOCALIC RR;3LL;1VOWEL SIGN VOCALIC L;4LL"]⟩,
   ⟨0xCE6, ["0KANNADA DIGIT ZERO;2ONE;2TWO;2THREE;2FOUR;2FIVE;2SIX;2SEVEN;2EIGHT;2NINE"]⟩,
   ⟨0xCF1, ["0KANNADA SIGN JIHVAMULIYA;2UPADHMANIYA"]⟩,
   ⟨0xD00, ["0MALAYALAM SIGN COMBINING ANUSVARA ABOVE;2CANDRABINDU;2ANUSVARA;2VISARGA;1LETTER VEDIC ANUSVARA;2A;2AA",
     "2I;2II;2U;2UU;2VOCALIC R;3L"]⟩,
   ⟨0xD0E, ["0MALAYALAM LETTER E;2EE;2AI"]⟩,
   ⟨0xD12, ["0MALAYALAM LETTER O;2OO;2AU;2KA;2KHA;2GA;2GHA;2NGA;2CA;2CHA;2JA;2JHA;2NYA;2TTA;2TTHA;2DDA;2DDHA;2NNA",
     "2TA;2THA;2DA;2DHA;2NA;2NNNA;2PA;2PHA;2BA;2BHA;2MA;2YA;2RA;2RRA;2LA;2LLA;2LLLA;2VA;2SHA;2SSA;2SA;2HA;2TTTA",
     "1SIGN VERTICAL BAR VIRAMA;2CIRCULAR VIRAMA;2AVAGRAHA;1VOWEL SIGN AA;3I;3II;3U;3UU;3VOCALIC R;4RR"]⟩,
   ⟨0xD46, ["0MALAYALAM VOWEL SIGN E;3EE;3AI"]⟩,
   ⟨0xD4A, ["0MALAYALAM VOWEL SIGN O;3OO;3AU;1SIGN VIRAMA;1LETTER DOT REPH;1SIGN PARA"]⟩,
   ⟨0xD54, ["0MALAYALAM LETTER CHILLU M;3Y;3LLL;1AU LENGTH MARK;1FRACTION ONE ONE-HUNDRED-AND-SIXTIETH;3FORTIETH",
     "2THREE EIGHTIETHS;2ONE TWENTIETH;3TENTH;2THREE TWENTIETHS;2ONE FIFTH;1LETTER ARCHAIC II;2VOCALIC RR;3LL",
     "1VOWEL SIGN VOCALIC L;4LL"]⟩,
   ⟨0xD66, ["0MALAYALAM DIGIT ZERO;2ONE;2TWO;2THREE;2FOUR;2FIVE;2SIX;2SEVEN;2EIGHT;2NINE;1NUMBER TEN;2ONE HUNDRED",
     "3THOUSAND;1FRACTION ONE QUARTER;3HALF;2THREE QUARTERS;2ONE SIXTEENTH;3EIGHTH;2THREE SIXTEENTHS;1DATE MARK",
     "1LETTER CHILLU NN;3N;3RR;3L;3LL;3K"]⟩,
   ⟨0xD81, ["0SINHALA SIGN CANDRABINDU;2ANUSVARAYA;2VISARGAYA"]⟩,
   ⟨0xD85, ["0SINHALA LETTER AYANNA;2AAYANNA;2AEYANNA;2AEEYANNA;2IYANNA;2IIYANNA;2UYANNA;2UUYANNA;2IRUYANNA",
     "2IRUUYANNA;2ILUYANNA;2ILUUYANNA;2EYANNA;2EEYANNA;2AIYANNA;2OYANNA;2OOYANNA;2AUYANNA"]⟩,
   ⟨0xD9A, ["0SINHALA LETTER ALPAPRAANA KAYANNA;2MAHAAPRAANA~;2ALPAPRAANA GAYANNA;2MAHAAPRAANA~;2KANTAJA NAASIKYAYA",
     "2SANYAKA GAYANNA;2ALPAPRAANA CAYANNA;2MAHAAPRAANA~;2ALPAPRAANA JAYANNA;2MAHAAPRAANA~;2TAALUJA NAASIKYAYA",
     "3SANYOOGA NAAKSIKYAYA;2SANYAKA JAYANNA;2ALPAPRAANA TTAYANNA;2MAHAAPRAANA~;2ALPAPRAANA DDAYANNA;2MAHAAPRAANA~",
     "2MUURDHAJA NAYANNA;2SANYAKA DDAYANNA;2ALPAPRAANA TAYANNA;2MAHAAPRAANA~;2ALPAPRAANA DAYANNA;2MAHAAPRAANA~",
     "2DANTAJA NAYANNA"]⟩,
   ⟨0xDB3, ["0SINHALA LETTER SANYAKA DAYANNA;2ALPAPRAANA PAYANNA;2MAHAAPRAANA~;2ALPAPRAANA BAYANNA;2MAHAAPRAANA~",
     "2MAYANNA;2AMBA BAYANNA;2YAYANNA;2RAYANNA"]⟩,
   ⟨0xDBD, ["0SINHALA LETTER DANTAJA LAYANNA"]⟩,
   ⟨0xDC0, ["0SINHALA LETTER VAYANNA;2TAALUJA SAYANNA;2MUURDHAJA~;2DANTAJA~;2HAYANNA;2MUURDHAJA LAYANNA;2FAYANNA"]⟩,
   ⟨0xDCA, ["0SINHALA SIGN AL-LAKUNA"]⟩,
   ⟨0xDCF, ["0SINHALA VOWEL SIGN AELA-PILLA;3KETTI AEDA-PILLA;3DIGA~;3KETTI IS-PILLA;3DIGA~;3KETTI PAA-PILLA"]⟩,
   ⟨0xDD6, ["0SINHALA VOWEL SIGN DIGA PAA-PILLA"]⟩,
   ⟨0xDD8, ["0SINHALA VOWEL SIGN GAETTA-PILLA;3KOMBUVA;3DIGA KOMBUVA;3KOMBU DEKA;3KOMBUVA HAA AELA-PILLA",
     "5DIGA AELA-PILLA;5GAYANUKITTA;3GAYANUKITTA"]⟩,
   ⟨0xDE6, ["0SINHALA LITH DIGIT ZERO;3ONE;3TWO;3THREE;3FOUR;3FIVE;3SIX;3SEVEN;3EIGHT;3NINE"]⟩,
   ⟨0xDF2, ["0SINHALA VOWEL SIGN DIGA GAETTA-PILLA;4GAYANUKITTA;1PUNCTUATION KUNDDALIYA"]⟩,
   ⟨0xE01, ["0THAI CHARACTER KO KAI;2KHO KHAI;3KHUAT;3KHWAI;3KHON;3RAKHANG;2NGO NGU;2CHO CHAN;3CHING;3CHANG;2SO SO",
     "2CHO CHOE;2YO YING;2DO CHADA;2TO PATAK;2THO THAN;3NANGMONTHO;3PHUTHAO;2NO NEN;2DO DEK;2TO TAO;2THO THUNG",
     "3THAHAN;3THONG;2NO NU;2BO BAIMAI;2PO PLA;2PHO PHUNG;2FO FA;2PHO PHAN;2FO FAN;2PHO SAMPHAO;2MO MA;2YO YAK",
     "2RO RUA;2RU;2LO LING;2LU;2WO WAEN;2SO SALA;3RUSI;3SUA;2HO HIP;2LO CHULA;2O ANG;2HO NOKHUK;2PAIYANNOI;2SARA A",
     "2MAI HAN-AKAT;2SARA AA;3AM;3I;3II;3UE;3UEE;3U;3UU;2PHINTHU"]⟩,
   ⟨0xE3F, ["0THAI CURRENCY SYMBOL BAHT;1CHARACTER SARA E;3AE;3O;3AI MAIMUAN;4MAIMALAI;2LAKKHANGYAO;2MAIYAMOK",
     "2MAITAIKHU;2MAI EK;3THO;3TRI;3CHATTAWA;2THANTHAKHAT;2NIKHAHIT;2YAMAKKAN;2FONGMAN;1DIGIT ZERO;2ONE;2TWO;2THREE",
     "2FOUR;2FIVE;2SIX;2SEVEN;2EIGHT;2NINE;1CHARACTER ANGKHANKHU;2KHOMUT"]⟩,
   ⟨0xE81, ["0LAO LETTER KO;2KHO SUNG"]⟩,
   ⟨0xE84, ["0LAO LETTER KHO TAM"]⟩,
   ⟨0xE86, ["0LAO LETTER PALI GHA;2NGO;2CO;2PALI CHA;2SO TAM"]⟩,
   ⟨0xE8C, ["0LAO LETTER PALI JHA;2NYO;2PALI NYA;3TTA;3TTHA;3DDA;3DDHA;3NNA;2DO;2TO;2THO SUNG;3TAM;2PALI DHA;2NO",
     "2BO;2PO;2PHO SUNG;2FO TAM;2PHO~;2FO SUNG;2PALI BHA;2MO;2YO;2LO LING"]⟩,
   ⟨0xEA5, ["0LAO LETTER LO LOOT"]⟩,
   ⟨0xEA7, ["0LAO LETTER WO;2SANSKRIT SHA;3SSA;2SO SUNG;2HO~;2PALI LLA;2O;2HO TAM;1ELLIPSIS;1VOWEL SIGN A;3MAI KAN",
     "3AA;3AM;3I;3II;3Y;3YY;3U;3UU;1SIGN PALI VIRAMA;1VOWEL SIGN MAI KON;1SEMIVOWEL SIGN LO;3NYO"]⟩,
   ⟨0xEC0, ["0LAO VOWEL SIGN E;3EI;3O;3AY;3AI"]⟩,
   ⟨0xEC6, ["0LAO KO LA"]⟩,
   ⟨0xEC8, ["0LAO TONE MAI EK;3THO;3TI;3CATAWA;1CANCELLATION MARK;1NIGGAHITA"]⟩,
   ⟨0xED0, ["0LAO DIGIT ZERO;2ONE;2TWO;2THREE;2FOUR;2FIVE;2SIX;2SEVEN;2EIGHT;2NINE"]⟩,
   ⟨0xEDC, ["0LAO HO NO;2MO;1LETTER KHMU GO;3NYO"]⟩,
   ⟨0xF00, ["0TIBETAN SYLLABLE OM;1MARK GTER YIG MGO TRUNCATED A;5-UM RNAM BCAD MA;6GTER TSHEG~",
     "2INITIAL YIG MGO MDUN MA;2CLOSING YIG MGO SGAB~;2CARET YIG MGO PHUR SHAD MA;2YIG MGO TSHEG SHAD MA",
     "2SBRUL SHAD;2BSKUR YIG MGO;2BKA- SHOG YIG MGO;2INTERSYLLABIC TSHEG;2DELIMITER TSHEG BSTAR;2SHAD;2NYIS SHAD",
     "2TSHEG~;2NYIS TSHEG SHAD;2RIN CHEN SPUNGS SHAD;2RGYA GRAM SHAD;2CARET -DZUD RTAGS ME LONG CAN;2GTER TSHEG",
     "1LOGOTYPE SIGN CHAD RTAGS;3LHAG~;1ASTROLOGICAL SIGN SGRA GCAN -CHAR RTAGS;3-KHYUD PA;3SDONG TSHUGS",
     "1SIGN RDEL DKAR GCIG;4GNYIS;4GSUM;3NAG GCIG;4GNYIS;3DKAR RDEL NAG;1DIGIT ZERO;2ONE;2TWO;2THREE;2FOUR;2FIVE",
     "2SIX;2SEVEN;2EIGHT;2NINE;2HALF ONE;3TWO;3THREE;3FOUR;3FIVE;3SIX;3SEVEN;3EIGHT;3NINE;3ZERO;1MARK BSDUS RTAGS",
     "2NGAS BZUNG NYI ZLA;2CARET -DZUD RTAGS BZHI MIG CAN;2NGAS BZUNG SGOR RTAGS;2CHE MGO;2TSA -PHRU",
     "2GUG RTAGS GYON;4GYAS;2ANG KHANG GYON;4GYAS;1SIGN YAR TSHES;2MAR~;1LETTER KA;2KHA;2GA;2GHA;2NGA;2CA;2CHA;2JA"]⟩,
   ⟨0xF49, ["0TIBETAN LETTER NYA;2TTA;2TTHA;2DDA;2DDHA;2NNA;2TA;2THA;2DA;2DHA;2NA;2PA;2PHA;2BA;2BHA;2MA;2TSA;2TSHA",
     "2DZA;2DZHA;2WA;2ZHA;2ZA;2-A;2YA;2RA;2LA;2SHA;2SSA;2SA;2HA;2A;2KSSA;2FIXED-FORM RA;2KKA;2RRA"]⟩,
   ⟨0xF71, ["0TIBETAN VOWEL SIGN AA;3I;3II;3U;3UU;3VOCALIC R;4RR;4L;4LL;3E;3EE;3O;3OO;1SIGN RJES SU NGA RO",
     "2RNAM BCAD;1VOWEL SIGN REVERSED I;4II;1SIGN NYI ZLA NAA DA;2SNA LDAN;1MARK HALANTA;2PALUTA;1SIGN LCI RTAGS",
     "2YANG~;2LCE TSA CAN;2MCHU CAN;2GRU CAN RGYINGS;3MED~;2INVERTED MCHU CAN;1SUBJOINED SIGN LCE TSA CAN;3MCHU CAN",
     "3INVERTED MCHU CAN;2LETTER KA;3KHA;3GA;3GHA;3NGA;3CA;3CHA;3JA"]⟩,
   ⟨0xF99, ["0TIBETAN SUBJOINED LETTER NYA;3TTA;3TTHA;3DDA;3DDHA;3NNA;3TA;3THA;3DA;3DHA;3NA;3PA;3PHA;3BA;3BHA;3MA",
     "3TSA;3TSHA;3DZA;3DZHA;3WA;3ZHA;3ZA;3-A;3YA;3RA;3LA;3SHA;3SSA;3SA;3HA;3A;3KSSA;3FIXED-FORM WA;4YA;4RA"]⟩,
   ⟨0xFBE, ["0TIBETAN KU RU KHA;4BZHI MIG CAN;1CANTILLATION SIGN HEAVY BEAT;3LIGHT~;3CANG TE-U;3SBUB -CHAL",
     "1SYMBOL DRIL BU;2RDO RJE;2PADMA GDAN;2RDO RJE RGYA GRAM;2PHUR PA;2NOR BU;4NYIS -KHYIL;4GSUM~;4BZHI~"]⟩,
   ⟨0xFCE, ["0TIBETAN SIGN RDEL NAG RDEL DKAR;4GSUM;1MARK BSKA- SHOG GI MGO RGYAN;2MNYAM YIG~;2NYIS TSHEG",
     "2INITIAL BRDA RNYING YIG MGO MDUN MA;2CLOSING BRDA RNYING YIG MGO SGAB~;0RIGHT-FACING SVASTI SIGN",
     "0LEFT-FACING~;0RIGHT-FACING SVASTI SIGN WITH DOTS;0LEFT-FACING~;0TIBETAN MARK LEADING MCHAN RTAGS;2TRAILING~"]⟩,
   ⟨0x1000, ["0MYANMAR LETTER KA;2KHA;2GA;2GHA;2NGA;2CA;2CHA;2JA;2JHA;2NYA;2NNYA;2TTA;2TTHA;2DDA;2DDHA;2NNA;2TA",
     "2THA;2DA;2DHA;2NA;2PA;2PHA;2BA;2BHA;2MA;2YA;2RA;2LA;2WA;2SA;2HA;2LLA;2A;2SHAN A;2I;2II;2U;2UU;2E;2MON E;2O",
     "2AU;1VOWEL SIGN TALL AA;3AA;3I;3II;3U;3UU;3E;3AI;3MON II;4O;3E ABOVE;1SIGN ANUSVARA;2DOT BELOW;2VISARGA",
     "2VIRAMA;2ASAT;1CONSONANT SIGN MEDIAL YA;4RA;4WA;4HA;1LETTER GREAT SA;1DIGIT ZERO;2ONE;2TWO;2THREE;2FOUR;2FIVE",
     "2SIX;2SEVEN;2EIGHT;2NINE;1SIGN LITTLE SECTION;2SECTION;1SYMBOL LOCATIVE;2COMPLETED;2AFOREMENTIONED;2GENITIVE",
     "1LETTER SHA;2SSA;2VOCALIC R;3RR;3L;3LL;1VOWEL SIGN VOCALIC R;4RR;4L;4LL;1LETTER MON NGA;3JHA;3BBA;3BBE",
     "1CONSONANT SIGN MON MEDIAL NA;5MA;5LA;1LETTER SGAW KAREN SHA;1VOWEL SIGN SGAW KAREN EU",
     "1TONE MARK SGAW KAREN HATHI;5KE PHO;1LETTER WESTERN PWO KAREN THA;5PWA;1VOWEL SIGN WESTERN PWO KAREN EU;6UE",
     "1SIGN WESTERN PWO KAREN TONE-1;5TONE-2;5TONE-3;5TONE-4;5TONE-5;1LETTER EASTERN PWO KAREN NNA;5YWA;5GHWA",
     "1VOWEL SIGN GEBA KAREN I;3KAYAH OE;4U;4EE;1LETTER SHAN KA;3KHA;3GA;3CA;3ZA;3NYA;3DA;3NA;3PHA;3FA;3BA;3THA;3HA",
     "1CONSONANT SIGN SHAN MEDIAL WA;1VOWEL SIGN SHAN AA;4E;5ABOVE;4FINAL Y;1SIGN SHAN TONE-2;3TONE-3;3TONE-5",
     "3TONE-6;3COUNCIL TONE-2;4TONE-3;4EMPHATIC TONE;1LETTER RUMAI PALAUNG FA;1SIGN RUMAI PALAUNG TONE-5",
     "1SHAN DIGIT ZERO;3ONE;3TWO;3THREE;3FOUR;3FIVE;3SIX;3SEVEN;3EIGHT;3NINE;1SIGN KHAMTI TONE-1;3TONE-3",
     "1VOWEL SIGN AITON A;4AI;1SYMBOL SHAN ONE;3EXCLAMATION;0GEORGIAN CAPITAL LETTER AN;3BAN;3GAN;3DON;3EN;3VIN",
     "3ZEN;3TAN;3IN;3KAN;3LAS;3MAN;3NAR;3ON;3PAR;3ZHAR;3RAE;3SAN;3TAR;3UN;3PHAR;3KHAR;3GHAN;3QAR;3SHIN;3CHIN;3CAN",
     "3JIL;3CIL;3CHAR;3XAN;3JHAN;3HAE;3HE;3HIE;3WE;3HAR;3HOE"]⟩,
   ⟨0x10C7, ["0GEORGIAN CAPITAL LETTER YN"]⟩,
   ⟨0x10CD, ["0GEORGIAN CAPITAL LETTER AEN"]⟩,
   ⟨0x10D0, ["0GEORGIAN LETTER AN;2BAN;2GAN;2DON;2EN;2VIN;2ZEN;2TAN;2IN;2KAN;2LAS;2MAN;2NAR;2ON;2PAR;2ZHAR;2RAE",
     "2SAN;2TAR;2UN;2PHAR;2KHAR;2GHAN;2QAR;2SHIN;2CHIN;2CAN;2JIL;2CIL;2CHAR;2XAN;2JHAN;2HAE;2HE;2HIE;2WE;2HAR;2HOE",
     "2FI;2YN;2ELIFI;2TURNED GAN;2AIN;1PARAGRAPH SEPARATOR;0MODIFIER LETTER GEORGIAN NAR;0GEORGIAN LETTER AEN",
     "2HARD SIGN;2LABIAL~"]⟩]

end ReportCard.Text
