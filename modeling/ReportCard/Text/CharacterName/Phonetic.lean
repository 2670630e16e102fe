import ReportCard.Text.CharacterName.Basic

/-!
# Names of characters: Phonetic

The names of scripts of the Pacific, phonetic letters, and letters with several marks, U+1B00 to U+1FFF.
-/

namespace ReportCard.Text

/-- The names of scripts of the Pacific, phonetic letters, and letters with several marks. -/
def phoneticNames : List NameRun :=
  [⟨0x1B00, ["0BALINESE SIGN ULU RICEM;3CANDRA;2CECEK;2SURANG;2BISAH;1LETTER AKARA;3TEDUNG;2IKARA;3TEDUNG;2UKARA",
     "3TEDUNG;2RA REPA;4TEDUNG;2LA LENGA;4TEDUNG;2EKARA;2AIKARA;2OKARA;3TEDUNG;2KA;3MAHAPRANA;2GA;3GORA;2NGA;2CA",
     "3LACA;2JA;3JERA;2NYA;2TA LATIK;3MURDA MAHAPRANA;2DA MURDA ALPAPRANA;4MAHAPRANA;2NA RAMBAT;2TA;3TAWA;2DA;3MADU",
     "2NA;2PA;3KAPAL;2BA;3KEMBANG;2MA;2YA;2RA;2LA;2WA;2SA SAGA;3SAPA;2SA;2HA;1SIGN REREKAN;1VOWEL SIGN TEDUNG;3ULU",
     "4SARI;3SUKU;4ILUT;3RA REPA;5TEDUNG;3LA LENGA;5TEDUNG;3TALING;4REPA;4TEDUNG;4REPA TEDUNG;3PEPET;4TEDUNG",
     "1ADEG ADEG;1LETTER KAF SASAK;2KHOT~;2TZIR~;2EF~;2VE~;2ZAL~;2ASYURA~;2ARCHAIC JNYA"]⟩,
   ⟨0x1B50, ["0BALINESE DIGIT ZERO;2ONE;2TWO;2THREE;2FOUR;2FIVE;2SIX;2SEVEN;2EIGHT;2NINE;1PANTI;1PAMADA;1WINDU",
     "1CARIK PAMUNGKAH;2SIKI;2PAREREN;1PAMENENG;1MUSICAL SYMBOL DONG;3DENG;3DUNG;3DANG;4SURANG;3DING;3DAENG;3DEUNG",
     "3DAING;3DANG GEDE;3COMBINING TEGEH;4ENDEP;4KEMPUL;4KEMPLI;4JEGOGAN;4KEMPUL WITH JEGOGAN;4KEMPLI~;4BENDE;4GONG",
     "3RIGHT-HAND OPEN DUG;5DAG;4CLOSED TUK;5TAK;3LEFT-HAND OPEN PANG;5PUNG;4CLOSED PLAK;5PLUK;4OPEN PING",
     "1PANTI LANTANG;1PAMADA~"]⟩,
   ⟨0x1B80, ["0SUNDANESE SIGN PANYECEK;2PANGLAYAR;2PANGWISAD;1LETTER A;2I;2U;2AE;2O;2E;2EU;2KA;2QA;2GA;2NGA;2CA;2JA",
     "2ZA;2NYA;2TA;2DA;2NA;2PA;2FA;2VA;2BA;2MA;2YA;2RA;2LA;2WA;2SA;2XA;2HA;1CONSONANT SIGN PAMINGKAL;3PANYAKRA",
     "3PANYIKU;1VOWEL SIGN PANGHULU;3PANYUKU;3PANAELAENG;3PANOLONG;3PAMEPET;3PANEULEUNG;1SIGN PAMAAEH;2VIRAMA",
     "1CONSONANT SIGN PASANGAN MA;4WA;1LETTER KHA;2SYA;1DIGIT ZERO;2ONE;2TWO;2THREE;2FOUR;2FIVE;2SIX;2SEVEN;2EIGHT",
     "2NINE;1AVAGRAHA;1LETTER REU;2LEU;2BHA;2FINAL K;3M;0BATAK LETTER A;2SIMALUNGUN A;2HA;2SIMALUNGUN HA",
     "2MANDAILING~;2BA;2KARO BA;2PA;2SIMALUNGUN PA;2NA;2MANDAILING NA;2WA;2SIMALUNGUN WA;2PAKPAK~;2GA",
     "2SIMALUNGUN GA;2JA;2DA;2RA;2SIMALUNGUN RA;2MA;2SIMALUNGUN MA;2SOUTHERN TA;2NORTHERN~;2SA;2SIMALUNGUN SA",
     "2MANDAILING~;2YA;2SIMALUNGUN YA;2NGA;2LA;2SIMALUNGUN LA;2NYA;2CA;2NDA;2MBA;2I;2U;1SIGN TOMPI;1VOWEL SIGN E",
     "3PAKPAK E;3EE;3I;3KARO I;3O;3KARO O;3U;4FOR SIMALUNGUN SA;1CONSONANT SIGN NG;3H;1PANGOLAT;1PANONGONAN"]⟩,
   ⟨0x1BFC, ["0BATAK SYMBOL BINDU NA METEK;3PINARBORAS;3JUDUL;3PANGOLAT;0LEPCHA LETTER KA;2KLA;2KHA;2GA;2GLA;2NGA",
     "2CA;2CHA;2JA;2NYA;2TA;2THA;2DA;2NA;2PA;2PLA;2PHA;2FA;2FLA;2BA;2BLA;2MA;2MLA;2TSA;2TSHA;2DZA;2YA;2RA;2LA;2HA",
     "2HLA;2VA;2SA;2SHA;2WA;2A;1SUBJOINED LETTER YA;3RA;1VOWEL SIGN AA;3I;3O;3OO;3U;3UU;3E;1CONSONANT SIGN K;3M;3L",
     "3N;3P;3R;3T;3NYIN-DO;3KANG;1SIGN RAN;2NUKTA"]⟩,
   ⟨0x1C3B, ["0LEPCHA PUNCTUATION TA-ROL;2NYET THYOOM TA-ROL;2CER-WA;2TSHOOK CER-WA;2TSHOOK;1DIGIT ZERO;2ONE;2TWO",
     "2THREE;2FOUR;2FIVE;2SIX;2SEVEN;2EIGHT;2NINE"]⟩,
   ⟨0x1C4D, ["0LEPCHA LETTER TTA;2TTHA;2DDA;0OL CHIKI DIGIT ZERO;3ONE;3TWO;3THREE;3FOUR;3FIVE;3SIX;3SEVEN;3EIGHT",
     "3NINE;2LETTER LA;3AT;3AG;3ANG;3AL;3LAA;3AAK;3AAJ;3AAM;3AAW;3LI;3IS;3IH;3INY;3IR;3LU;3UC;3UD;3UNN;3UY;3LE;3EP",
     "3EDD;3EN;3ERR;3LO;3OTT;3OB;3OV;3OH;2MU TTUDDAG;2GAAHLAA TTUDDAAG;2MU-GAAHLAA~;2RELAA;2PHAARKAA;2AHAD",
     "2PUNCTUATION MUCAAD;3DOUBLE MUCAAD;0CYRILLIC SMALL LETTER ROUNDED VE;3LONG-LEGGED DE;3NARROW O;3WIDE ES",
     "3TALL TE;3THREE-LEGGED~;3TALL HARD SIGN;4YAT;3UNBLENDED UK"]⟩,
   ⟨0x1C90, ["0GEORGIAN MTAVRULI CAPITAL LETTER AN;4BAN;4GAN;4DON;4EN;4VIN;4ZEN;4TAN;4IN;4KAN;4LAS;4MAN;4NAR;4ON",
     "4PAR;4ZHAR;4RAE;4SAN;4TAR;4UN;4PHAR;4KHAR;4GHAN;4QAR;4SHIN;4CHIN;4CAN;4JIL;4CIL;4CHAR;4XAN;4JHAN;4HAE;4HE",
     "4HIE;4WE;4HAR;4HOE;4FI;4YN;4ELIFI;4TURNED GAN;4AIN"]⟩,
   ⟨0x1CBD, ["0GEORGIAN MTAVRULI CAPITAL LETTER AEN;4HARD SIGN;4LABIAL~;0SUNDANESE PUNCTUATION BINDU SURYA",
     "3PANGLONG;3PURNAMA;3CAKRA;3LEU SATANGA;3KA~;3DA~;3BA~"]⟩,
   ⟨0x1CD0, ["0VEDIC TONE KARSHANA;2SHARA;2PRENKHA;1SIGN NIHSHVASA;2YAJURVEDIC MIDLINE SVARITA",
     "1TONE YAJURVEDIC AGGRAVATED INDEPENDENT SVARITA;3INDEPENDENT SVARITA;3KATHAKA INDEPENDENT SVARITA",
     "2CANDRA BELOW;2YAJURVEDIC KATHAKA INDEPENDENT SVARITA SCHROEDER;2DOUBLE SVARITA;2TRIPLE~;2KATHAKA ANUDATTA",
     "2DOT BELOW;2TWO DOTS BELOW;2THREE~;2RIGVEDIC KASHMIRI INDEPENDENT SVARITA;2ATHARVAVEDIC INDEPENDENT SVARITA",
     "1SIGN VISARGA SVARITA;3UDATTA;2REVERSED VISARGA UDATTA;2VISARGA ANUDATTA;2REVERSED VISARGA ANUDATTA",
     "2VISARGA UDATTA WITH TAIL;3ANUDATTA~;2ANUSVARA ANTARGOMUKHA;3BAHIRGOMUKHA;3VAMAGOMUKHA;4WITH TAIL;2TIRYAK",
     "2HEXIFORM LONG ANUSVARA;2LONG ANUSVARA;2RTHANG LONG ANUSVARA;2ANUSVARA UBHAYATO MUKHA;2ARDHAVISARGA",
     "2ROTATED ARDHAVISARGA;1TONE CANDRA ABOVE;1SIGN JIHVAMULIYA;2UPADHMANIYA;2ATIKRAMA;1TONE RING ABOVE",
     "2DOUBLE RING ABOVE;1SIGN DOUBLE ANUSVARA ANTARGOMUKHA"]⟩,
   ⟨0x1D00, ["0LATIN LETTER SMALL CAPITAL A;4AE;1SMALL LETTER TURNED~;1LETTER SMALL CAPITAL BARRED B;4C;4D;4ETH;4E",
     "1SMALL LETTER TURNED OPEN E;4I;1LETTER SMALL CAPITAL J;4K;4L WITH STROKE;4M;4REVERSED N;4O;4OPEN O",
     "1SMALL LETTER SIDEWAYS O;4OPEN O;4O WITH STROKE;3TURNED OE;1LETTER SMALL CAPITAL OU;1SMALL LETTER TOP HALF O",
     "3BOTTOM~;1LETTER SMALL CAPITAL P;4REVERSED R;4TURNED~;4T;4U;1SMALL LETTER SIDEWAYS~;4DIAERESIZED U;4TURNED M",
     "1LETTER SMALL CAPITAL V;4W;4Z;4EZH;2VOICED LARYNGEAL SPIRANT;2AIN;0GREEK LETTER SMALL CAPITAL GAMMA;4LAMDA",
     "4PI;4RHO;4PSI;0CYRILLIC LETTER SMALL CAPITAL EL;0MODIFIER LETTER CAPITAL A;3AE;3B;3BARRED B;3D;3E;3REVERSED E",
     "3G;3H;3I;3J;3K;3L;3M;3N;3REVERSED N;3O;3OU;3P;3R;3T;3U;3W;2SMALL A;3TURNED A;3ALPHA;3TURNED AE;3B;3D;3E",
     "3SCHWA;3OPEN E;3TURNED OPEN E;3G;3TURNED I;3K;3M;3ENG;3O;3OPEN O;3TOP HALF O;3BOTTOM~;3P;3T;3U;3SIDEWAYS U",
     "3TURNED M;3V;3AIN;3BETA;3GREEK GAMMA;3DELTA;3GREEK PHI;3CHI;0LATIN SUBSCRIPT SMALL LETTER I;4R;4U;4V",
     "0GREEK SUBSCRIPT SMALL LETTER BETA;4GAMMA;4RHO;4PHI;4CHI;0LATIN SMALL LETTER UE;3B WITH MIDDLE TILDE;3D~;3F~",
     "3M~;3N~;3P~;3R~;5FISHHOOK AND MIDDLE TILDE;3S WITH MIDDLE TILDE;3T~;3Z~;3TURNED G",
     "0MODIFIER LETTER CYRILLIC EN;0LATIN SMALL LETTER INSULAR G;3TH WITH STRIKETHROUGH",
     "2CAPITAL LETTER I WITH STROKE;2LETTER IOTA WITH STROKE;3P~;2CAPITAL LETTER U WITH STROKE",
     "2LETTER UPSILON WITH STROKE;3B WITH PALATAL HOOK;3D~;3F~;3G~;3K~;3L~;3M~;3N~;3P~;3R~;3S~;3ESH~;3V~;3X~;3Z~",
     "3A WITH RETROFLEX~;3ALPHA~;3D WITH HOOK AND TAIL;3E WITH RETROFLEX HOOK;3OPEN E WITH RETROFLEX HOOK",
     "3REVERSED OPEN E WITH RETROFLEX HOOK;3SCHWA WITH RETROFLEX HOOK;3I~;3OPEN O WITH RETROFLEX HOOK",
     "3ESH WITH RETROFLEX HOOK;3U~;3EZH~;0MODIFIER LETTER SMALL TURNED ALPHA;3C;4WITH CURL;3ETH;3REVERSED OPEN E;3F",
     "3DOTLESS J WITH STROKE;3SCRIPT G;3TURNED H;3I WITH STROKE;3IOTA;3CAPITAL I;5WITH STROKE;3J WITH CROSSED-TAIL",
     "3L WITH RETROFLEX HOOK;5PALATAL~;3CAPITAL L;3M WITH HOOK;3TURNED M WITH LONG LEG;3N WITH LEFT HOOK",
     "5RETROFLEX~;3CAPITAL N;3BARRED O;3PHI;3S WITH HOOK;3ESH;3T WITH PALATAL HOOK;3U BAR;3UPSILON;3CAPITAL U",
     "3V WITH HOOK;3TURNED V;3Z;4WITH RETROFLEX HOOK;5CURL;3EZH;3THETA;0COMBINING DOTTED GRAVE ACCENT;2ACUTE~",
     "1SNAKE BELOW;1SUSPENSION MARK;1MACRON-ACUTE;1GRAVE-MACRON;1MACRON-GRAVE;1ACUTE-MACRON;1GRAVE-ACUTE-GRAVE",
     "1ACUTE-GRAVE-ACUTE;1LATIN SMALL LETTER R BELOW;1BREVE-MACRON;1MACRON-BREVE;1DOUBLE CIRCUMFLEX ABOVE",
     "1OGONEK ABOVE;1ZIGZAG BELOW;1IS~;1UR ABOVE;1US~;1LATIN SMALL LETTER FLATTENED OPEN A ABOVE;4AE;4AO;4AV",
     "4C CEDILLA;4INSULAR D;4ETH;4G;2LETTER SMALL CAPITAL G;2SMALL LETTER K;4L;2LETTER SMALL CAPITAL L;5M",
     "2SMALL LETTER N;2LETTER SMALL CAPITAL N;5R;2SMALL LETTER R ROTUNDA;4S;4LONG S;4Z;4ALPHA;4B;4BETA;4SCHWA;4F",
     "4L WITH DOUBLE MIDDLE TILDE;4O WITH LIGHT CENTRALIZATION STROKE;4P;4ESH;4U WITH LIGHT CENTRALIZATION STROKE",
     "4W;4A WITH DIAERESIS;4O~;4U~;1UP TACK ABOVE;1KAVYKA ABOVE RIGHT;3LEFT;1DOT~;1WIDE INVERTED BRIDGE BELOW",
     "1DOT BELOW LEFT;1DELETION MARK;1DOUBLE INVERTED BREVE BELOW;1ALMOST EQUAL TO~;1LEFT ARROWHEAD ABOVE",
     "1RIGHT ARROWHEAD AND DOWN ARROWHEAD BELOW;0LATIN CAPITAL LETTER A WITH RING~;1SMALL~",
     "1CAPITAL LETTER B WITH DOT ABOVE;1SMALL~;1CAPITAL LETTER B WITH DOT BELOW;1SMALL~",
     "1CAPITAL LETTER B WITH LINE~;1SMALL~;1CAPITAL LETTER C WITH CEDILLA AND ACUTE;1SMALL~",
     "1CAPITAL LETTER D WITH DOT ABOVE;1SMALL~;1CAPITAL LETTER D WITH DOT BELOW;1SMALL~",
     "1CAPITAL LETTER D WITH LINE~;1SMALL~;1CAPITAL LETTER D WITH CEDILLA;1SMALL~",
     "1CAPITAL LETTER D WITH CIRCUMFLEX BELOW;1SMALL~;1CAPITAL LETTER E WITH MACRON AND GRAVE;1SMALL~",
     "1CAPITAL LETTER E WITH MACRON AND ACUTE;1SMALL~;1CAPITAL LETTER E WITH CIRCUMFLEX BELOW;1SMALL~",
     "1CAPITAL LETTER E WITH TILDE~;1SMALL~;1CAPITAL LETTER E WITH CEDILLA AND BREVE;1SMALL~",
     "1CAPITAL LETTER F WITH DOT ABOVE;1SMALL~;1CAPITAL LETTER G WITH MACRON;1SMALL~",
     "1CAPITAL LETTER H WITH DOT ABOVE;1SMALL~;1CAPITAL LETTER H WITH DOT BELOW;1SMALL~",
     "1CAPITAL LETTER H WITH DIAERESIS;1SMALL~;1CAPITAL LETTER H WITH CEDILLA;1SMALL~",
     "1CAPITAL LETTER H WITH BREVE BELOW;1SMALL~;1CAPITAL LETTER I WITH TILDE~;1SMALL~",
     "1CAPITAL LETTER I WITH DIAERESIS AND ACUTE;1SMALL~;1CAPITAL LETTER K WITH ACUTE;1SMALL~",
     "1CAPITAL LETTER K WITH DOT BELOW;1SMALL~;1CAPITAL LETTER K WITH LINE~;1SMALL~;1CAPITAL LETTER L WITH DOT~",
     "1SMALL~;1CAPITAL LETTER L WITH DOT BELOW AND MACRON;1SMALL~;1CAPITAL LETTER L WITH LINE BELOW;1SMALL~",
     "1CAPITAL LETTER L WITH CIRCUMFLEX~;1SMALL~;1CAPITAL LETTER M WITH ACUTE;1SMALL~",
     "1CAPITAL LETTER M WITH DOT ABOVE;1SMALL~;1CAPITAL LETTER M WITH DOT BELOW;1SMALL~",
     "1CAPITAL LETTER N WITH DOT ABOVE;1SMALL~;1CAPITAL LETTER N WITH DOT BELOW;1SMALL~",
     "1CAPITAL LETTER N WITH LINE~;1SMALL~;1CAPITAL LETTER N WITH CIRCUMFLEX~;1SMALL~",
     "1CAPITAL LETTER O WITH TILDE AND ACUTE;1SMALL~;1CAPITAL LETTER O WITH TILDE AND DIAERESIS;1SMALL~",
     "1CAPITAL LETTER O WITH MACRON AND GRAVE;1SMALL~;1CAPITAL LETTER O WITH MACRON AND ACUTE;1SMALL~",
     "1CAPITAL LETTER P WITH ACUTE;1SMALL~;1CAPITAL LETTER P WITH DOT ABOVE;1SMALL~;1CAPITAL LETTER R~;1SMALL~",
     "1CAPITAL LETTER R WITH DOT BELOW;1SMALL~;1CAPITAL LETTER R WITH DOT BELOW AND MACRON;1SMALL~",
     "1CAPITAL LETTER R WITH LINE BELOW;1SMALL~;1CAPITAL LETTER S WITH DOT ABOVE;1SMALL~",
     "1CAPITAL LETTER S WITH DOT BELOW;1SMALL~;1CAPITAL LETTER S WITH ACUTE AND DOT ABOVE;1SMALL~",
     "1CAPITAL LETTER S WITH CARON~;1SMALL~;1CAPITAL LETTER S WITH DOT BELOW AND DOT ABOVE;1SMALL~",
     "1CAPITAL LETTER T WITH DOT ABOVE;1SMALL~;1CAPITAL LETTER T WITH DOT BELOW;1SMALL~",
     "1CAPITAL LETTER T WITH LINE~;1SMALL~;1CAPITAL LETTER T WITH CIRCUMFLEX~;1SMALL~",
     "1CAPITAL LETTER U WITH DIAERESIS~;1SMALL~;1CAPITAL LETTER U WITH TILDE~;1SMALL~",
     "1CAPITAL LETTER U WITH CIRCUMFLEX~;1SMALL~;1CAPITAL LETTER U WITH TILDE AND ACUTE;1SMALL~",
     "1CAPITAL LETTER U WITH MACRON AND DIAERESIS;1SMALL~;1CAPITAL LETTER V WITH TILDE;1SMALL~",
     "1CAPITAL LETTER V WITH DOT BELOW;1SMALL~;1CAPITAL LETTER W WITH GRAVE;1SMALL~;1CAPITAL LETTER W WITH ACUTE",
     "1SMALL~;1CAPITAL LETTER W WITH DIAERESIS;1SMALL~;1CAPITAL LETTER W WITH DOT ABOVE;1SMALL~",
     "1CAPITAL LETTER W WITH DOT BELOW;1SMALL~;1CAPITAL LETTER X WITH DOT ABOVE;1SMALL~",
     "1CAPITAL LETTER X WITH DIAERESIS;1SMALL~;1CAPITAL LETTER Y WITH DOT ABOVE;1SMALL~",
     "1CAPITAL LETTER Z WITH CIRCUMFLEX;1SMALL~;1CAPITAL LETTER Z WITH DOT BELOW;1SMALL~",
     "1CAPITAL LETTER Z WITH LINE~;1SMALL~;3H~;3T WITH DIAERESIS;3W WITH RING ABOVE;3Y~;3A WITH RIGHT HALF RING",
     "3LONG S WITH DOT ABOVE;6DIAGONAL STROKE;6HIGH~;1CAPITAL LETTER SHARP S;1SMALL LETTER DELTA",
     "1CAPITAL LETTER A WITH DOT BELOW;1SMALL~;1CAPITAL LETTER A WITH HOOK ABOVE;1SMALL~",
     "1CAPITAL LETTER A WITH CIRCUMFLEX AND ACUTE;1SMALL~;1CAPITAL LETTER A WITH CIRCUMFLEX AND GRAVE;1SMALL~",
     "1CAPITAL LETTER A WITH CIRCUMFLEX AND HOOK ABOVE;1SMALL~;1CAPITAL LETTER A WITH CIRCUMFLEX AND TILDE;1SMALL~",
     "1CAPITAL LETTER A WITH CIRCUMFLEX AND DOT BELOW;1SMALL~;1CAPITAL LETTER A WITH BREVE AND ACUTE;1SMALL~",
     "1CAPITAL LETTER A WITH BREVE AND GRAVE;1SMALL~;1CAPITAL LETTER A WITH BREVE AND HOOK ABOVE;1SMALL~",
     "1CAPITAL LETTER A WITH BREVE AND TILDE;1SMALL~;1CAPITAL LETTER A WITH BREVE AND DOT BELOW;1SMALL~",
     "1CAPITAL LETTER E WITH DOT BELOW;1SMALL~;1CAPITAL LETTER E WITH HOOK ABOVE;1SMALL~",
     "1CAPITAL LETTER E WITH TILDE;1SMALL~;1CAPITAL LETTER E WITH CIRCUMFLEX AND ACUTE;1SMALL~",
     "1CAPITAL LETTER E WITH CIRCUMFLEX AND GRAVE;1SMALL~;1CAPITAL LETTER E WITH CIRCUMFLEX AND HOOK ABOVE;1SMALL~",
     "1CAPITAL LETTER E WITH CIRCUMFLEX AND TILDE;1SMALL~;1CAPITAL LETTER E WITH CIRCUMFLEX AND DOT BELOW;1SMALL~",
     "1CAPITAL LETTER I WITH HOOK ABOVE;1SMALL~;1CAPITAL LETTER I WITH DOT BELOW;1SMALL~;1CAPITAL LETTER O~;1SMALL~",
     "1CAPITAL LETTER O WITH HOOK ABOVE;1SMALL~;1CAPITAL LETTER O WITH CIRCUMFLEX AND ACUTE;1SMALL~",
     "1CAPITAL LETTER O WITH CIRCUMFLEX AND GRAVE;1SMALL~;1CAPITAL LETTER O WITH CIRCUMFLEX AND HOOK ABOVE;1SMALL~",
     "1CAPITAL LETTER O WITH CIRCUMFLEX AND TILDE;1SMALL~;1CAPITAL LETTER O WITH CIRCUMFLEX AND DOT BELOW;1SMALL~",
     "1CAPITAL LETTER O WITH HORN AND ACUTE;1SMALL~;1CAPITAL LETTER O WITH HORN AND GRAVE;1SMALL~",
     "1CAPITAL LETTER O WITH HORN AND HOOK ABOVE;1SMALL~;1CAPITAL LETTER O WITH HORN AND TILDE;1SMALL~",
     "1CAPITAL LETTER O WITH HORN AND DOT BELOW;1SMALL~;1CAPITAL LETTER U WITH DOT BELOW;1SMALL~",
     "1CAPITAL LETTER U WITH HOOK ABOVE;1SMALL~;1CAPITAL LETTER U WITH HORN AND ACUTE;1SMALL~",
     "1CAPITAL LETTER U WITH HORN AND GRAVE;1SMALL~;1CAPITAL LETTER U WITH HORN AND HOOK ABOVE;1SMALL~",
     "1CAPITAL LETTER U WITH HORN AND TILDE;1SMALL~;1CAPITAL LETTER U WITH HORN AND DOT BELOW;1SMALL~",
     "1CAPITAL LETTER Y WITH GRAVE;1SMALL~;1CAPITAL LETTER Y WITH DOT BELOW;1SMALL~",
     "1CAPITAL LETTER Y WITH HOOK ABOVE;1SMALL~;1CAPITAL LETTER Y WITH TILDE;1SMALL~",
     "1CAPITAL LETTER MIDDLE-WELSH LL;1SMALL~;1CAPITAL LETTER MIDDLE-WELSH V;1SMALL~;1CAPITAL LETTER Y WITH LOOP",
     "1SMALL~;0GREEK SMALL LETTER ALPHA WITH PSILI;5DASIA;5PSILI AND VARIA;5DASIA~;5PSILI AND OXIA;5DASIA~",
     "5PSILI AND PERISPOMENI;5DASIA~;1CAPITAL LETTER ALPHA WITH PSILI;5DASIA;5PSILI AND VARIA;5DASIA~",
     "5PSILI AND OXIA;5DASIA~;5PSILI AND PERISPOMENI;5DASIA~;1SMALL LETTER EPSILON WITH PSILI;5DASIA",
     "5PSILI AND VARIA;5DASIA~;5PSILI AND OXIA;5DASIA~"]⟩,
   ⟨0x1F18, ["0GREEK CAPITAL LETTER EPSILON WITH PSILI;5DASIA;5PSILI AND VARIA;5DASIA~;5PSILI AND OXIA;5DASIA~"]⟩,
   ⟨0x1F20, ["0GREEK SMALL LETTER ETA WITH PSILI;5DASIA;5PSILI AND VARIA;5DASIA~;5PSILI AND OXIA;5DASIA~",
     "5PSILI AND PERISPOMENI;5DASIA~;1CAPITAL LETTER ETA WITH PSILI;5DASIA;5PSILI AND VARIA;5DASIA~;5PSILI AND OXIA",
     "5DASIA~;5PSILI AND PERISPOMENI;5DASIA~;1SMALL LETTER IOTA WITH PSILI;5DASIA;5PSILI AND VARIA;5DASIA~",
     "5PSILI AND OXIA;5DASIA~;5PSILI AND PERISPOMENI;5DASIA~;1CAPITAL LETTER IOTA WITH PSILI;5DASIA",
     "5PSILI AND VARIA;5DASIA~;5PSILI AND OXIA;5DASIA~;5PSILI AND PERISPOMENI;5DASIA~",
     "1SMALL LETTER OMICRON WITH PSILI;5DASIA;5PSILI AND VARIA;5DASIA~;5PSILI AND OXIA;5DASIA~"]⟩,
   ⟨0x1F48, ["0GREEK CAPITAL LETTER OMICRON WITH PSILI;5DASIA;5PSILI AND VARIA;5DASIA~;5PSILI AND OXIA;5DASIA~"]⟩,
   ⟨0x1F50, ["0GREEK SMALL LETTER UPSILON WITH PSILI;5DASIA;5PSILI AND VARIA;5DASIA~;5PSILI AND OXIA;5DASIA~",
     "5PSILI AND PERISPOMENI;5DASIA~"]⟩,
   ⟨0x1F59, ["0GREEK CAPITAL LETTER UPSILON WITH DASIA"]⟩,
   ⟨0x1F5B, ["0GREEK CAPITAL LETTER UPSILON WITH DASIA AND VARIA"]⟩,
   ⟨0x1F5D, ["0GREEK CAPITAL LETTER UPSILON WITH DASIA AND OXIA"]⟩,
   ⟨0x1F5F, ["0GREEK CAPITAL LETTER UPSILON WITH DASIA AND PERISPOMENI;1SMALL LETTER OMEGA WITH PSILI;5DASIA",
     "5PSILI AND VARIA;5DASIA~;5PSILI AND OXIA;5DASIA~;5PSILI AND PERISPOMENI;5DASIA~",
     "1CAPITAL LETTER OMEGA WITH PSILI;5DASIA;5PSILI AND VARIA;5DASIA~;5PSILI AND OXIA;5DASIA~",
     "5PSILI AND PERISPOMENI;5DASIA~;1SMALL LETTER ALPHA WITH VARIA;5OXIA;3EPSILON WITH VARIA;5OXIA;3ETA WITH VARIA",
     "5OXIA;3IOTA WITH VARIA;5OXIA;3OMICRON WITH VARIA;5OXIA;3UPSILON WITH VARIA;5OXIA;3OMEGA WITH VARIA;5OXIA"]⟩,
   ⟨0x1F80, ["0GREEK SMALL LETTER ALPHA WITH PSILI AND YPOGEGRAMMENI;5DASIA~;5PSILI AND VARIA AND YPOGEGRAMMENI",
     "5DASIA~;5PSILI AND OXIA~;5DASIA~;5PSILI AND PERISPOMENI~;5DASIA~",
     "1CAPITAL LETTER ALPHA WITH PSILI AND PROSGEGRAMMENI;5DASIA~;5PSILI AND VARIA AND PROSGEGRAMMENI;5DASIA~",
     "5PSILI AND OXIA~;5DASIA~;5PSILI AND PERISPOMENI~;5DASIA~;1SMALL LETTER ETA WITH PSILI AND YPOGEGRAMMENI",
     "5DASIA~;5PSILI AND VARIA AND YPOGEGRAMMENI;5DASIA~;5PSILI AND OXIA~;5DASIA~;5PSILI AND PERISPOMENI~;5DASIA~",
     "1CAPITAL LETTER ETA WITH PSILI AND PROSGEGRAMMENI;5DASIA~;5PSILI AND VARIA AND PROSGEGRAMMENI;5DASIA~",
     "5PSILI AND OXIA~;5DASIA~;5PSILI AND PERISPOMENI~;5DASIA~;1SMALL LETTER OMEGA WITH PSILI AND YPOGEGRAMMENI",
     "5DASIA~;5PSILI AND VARIA AND YPOGEGRAMMENI;5DASIA~;5PSILI AND OXIA~;5DASIA~;5PSILI AND PERISPOMENI~;5DASIA~",
     "1CAPITAL LETTER OMEGA WITH PSILI AND PROSGEGRAMMENI;5DASIA~;5PSILI AND VARIA AND PROSGEGRAMMENI;5DASIA~",
     "5PSILI AND OXIA~;5DASIA~;5PSILI AND PERISPOMENI~;5DASIA~;1SMALL LETTER ALPHA WITH VRACHY;5MACRON",
     "5VARIA AND YPOGEGRAMMENI;5YPOGEGRAMMENI;5OXIA AND YPOGEGRAMMENI"]⟩,
   ⟨0x1FB6, ["0GREEK SMALL LETTER ALPHA WITH PERISPOMENI;6AND YPOGEGRAMMENI;1CAPITAL LETTER ALPHA WITH VRACHY",
     "5MACRON;5VARIA;5OXIA;5PROSGEGRAMMENI;1KORONIS;1PROSGEGRAMMENI;1PSILI;1PERISPOMENI;1DIALYTIKA AND PERISPOMENI",
     "1SMALL LETTER ETA WITH VARIA AND YPOGEGRAMMENI;5YPOGEGRAMMENI;5OXIA AND YPOGEGRAMMENI"]⟩,
   ⟨0x1FC6, ["0GREEK SMALL LETTER ETA WITH PERISPOMENI;6AND YPOGEGRAMMENI;1CAPITAL LETTER EPSILON WITH VARIA;5OXIA",
     "3ETA WITH VARIA;5OXIA;5PROSGEGRAMMENI;1PSILI AND VARIA;3OXIA;3PERISPOMENI;1SMALL LETTER IOTA WITH VRACHY",
     "5MACRON;5DIALYTIKA AND VARIA;7OXIA"]⟩,
   ⟨0x1FD6, ["0GREEK SMALL LETTER IOTA WITH PERISPOMENI;5DIALYTIKA AND PERISPOMENI;1CAPITAL LETTER IOTA WITH VRACHY",
     "5MACRON;5VARIA;5OXIA"]⟩,
   ⟨0x1FDD, ["0GREEK DASIA AND VARIA;3OXIA;3PERISPOMENI;1SMALL LETTER UPSILON WITH VRACHY;5MACRON",
     "5DIALYTIKA AND VARIA;7OXIA;3RHO WITH PSILI;5DASIA;3UPSILON WITH PERISPOMENI;5DIALYTIKA AND PERISPOMENI",
     "1CAPITAL LETTER UPSILON WITH VRACHY;5MACRON;5VARIA;5OXIA;3RHO WITH DASIA;1DIALYTIKA AND VARIA;3OXIA;1VARIA"]⟩,
   ⟨0x1FF2, ["0GREEK SMALL LETTER OMEGA WITH VARIA AND YPOGEGRAMMENI;5YPOGEGRAMMENI;5OXIA AND YPOGEGRAMMENI"]⟩,
   ⟨0x1FF6, ["0GREEK SMALL LETTER OMEGA WITH PERISPOMENI;6AND YPOGEGRAMMENI;1CAPITAL LETTER OMICRON WITH VARIA",
     "5OXIA;3OMEGA WITH VARIA;5OXIA;5PROSGEGRAMMENI;1OXIA;1DASIA"]⟩]

end ReportCard.Text
