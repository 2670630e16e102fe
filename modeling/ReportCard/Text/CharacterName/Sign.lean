import ReportCard.Text.CharacterName.Basic

/-!
# Names of characters: Sign

The names of punctuation, currencies, arrows and operators, U+2000 to U+24FF.
-/

namespace ReportCard.Text

/-- The names of punctuation, currencies, arrows and operators. -/
def signNames : List NameRun :=
  [⟨0x2000, ["0EN QUAD;0EM~;0EN SPACE;0EM~;0THREE-PER-EM~;0FOUR-PER-EM~;0SIX-PER-EM~;0FIGURE~;0PUNCTUATION~;0THIN~",
     "0HAIR~;0ZERO WIDTH SPACE;2NON-JOINER;2JOINER;0LEFT-TO-RIGHT MARK;0RIGHT-TO-LEFT~;0HYPHEN;0NON-BREAKING HYPHEN",
     "0FIGURE DASH;0EN~;0EM~;0HORIZONTAL BAR;0DOUBLE VERTICAL LINE;1LOW~;0LEFT SINGLE QUOTATION MARK;0RIGHT~",
     "0SINGLE LOW-9~;1HIGH-REVERSED-9~;0LEFT DOUBLE~;0RIGHT~;0DOUBLE LOW-9~;1HIGH-REVERSED-9~;0DAGGER",
     "0DOUBLE DAGGER;0BULLET;0TRIANGULAR BULLET;0ONE DOT LEADER;0TWO~;0HORIZONTAL ELLIPSIS;0HYPHENATION POINT",
     "0LINE SEPARATOR;0PARAGRAPH~;0LEFT-TO-RIGHT EMBEDDING;0RIGHT-TO-LEFT~;0POP DIRECTIONAL FORMATTING",
     "0LEFT-TO-RIGHT OVERRIDE;0RIGHT-TO-LEFT~;0NARROW NO-BREAK SPACE;0PER MILLE SIGN;1TEN THOUSAND SIGN;0PRIME",
     "0DOUBLE PRIME;0TRIPLE~;0REVERSED~;1DOUBLE PRIME;1TRIPLE~;0CARET;0SINGLE LEFT-POINTING ANGLE QUOTATION MARK",
     "1RIGHT-POINTING~;0REFERENCE MARK;0DOUBLE EXCLAMATION MARK;0INTERROBANG;0OVERLINE;0UNDERTIE;0CHARACTER TIE",
     "0CARET INSERTION POINT;0ASTERISM;0HYPHEN BULLET;0FRACTION SLASH;0LEFT SQUARE BRACKET WITH QUILL;0RIGHT~",
     "0DOUBLE QUESTION MARK;0QUESTION EXCLAMATION~;0EXCLAMATION QUESTION~;0TIRONIAN SIGN ET;0REVERSED PILCROW SIGN",
     "0BLACK LEFTWARDS BULLET;1RIGHTWARDS~;0LOW ASTERISK;0REVERSED SEMICOLON;0CLOSE UP",
     "0TWO ASTERISKS ALIGNED VERTICALLY;0COMMERCIAL MINUS SIGN;0SWUNG DASH;0INVERTED UNDERTIE",
     "0FLOWER PUNCTUATION MARK;0THREE DOT PUNCTUATION;0QUADRUPLE PRIME;0FOUR DOT PUNCTUATION;0FIVE~;0TWO~",
     "0FOUR DOT MARK;0DOTTED CROSS;0TRICOLON;0VERTICAL FOUR DOTS;0MEDIUM MATHEMATICAL SPACE;0WORD JOINER",
     "0FUNCTION APPLICATION;0INVISIBLE TIMES;1SEPARATOR;1PLUS"]⟩,
   ⟨0x2066, ["0LEFT-TO-RIGHT ISOLATE;0RIGHT-TO-LEFT~;0FIRST STRONG ISOLATE;0POP DIRECTIONAL~",
     "0INHIBIT SYMMETRIC SWAPPING;0ACTIVATE~;0INHIBIT ARABIC FORM SHAPING;0ACTIVATE~;0NATIONAL DIGIT SHAPES",
     "0NOMINAL~;0SUPERSCRIPT ZERO;1LATIN SMALL LETTER I"]⟩,
   ⟨0x2074, ["0SUPERSCRIPT FOUR;1FIVE;1SIX;1SEVEN;1EIGHT;1NINE;1PLUS SIGN;1MINUS;1EQUALS SIGN;1LEFT PARENTHESIS",
     "1RIGHT~;1LATIN SMALL LETTER N;0SUBSCRIPT ZERO;1ONE;1TWO;1THREE;1FOUR;1FIVE;1SIX;1SEVEN;1EIGHT;1NINE",
     "1PLUS SIGN;1MINUS;1EQUALS SIGN;1LEFT PARENTHESIS;1RIGHT~"]⟩,
   ⟨0x2090, ["0LATIN SUBSCRIPT SMALL LETTER A;4E;4O;4X;4SCHWA;4H;4K;4L;4M;4N;4P;4S;4T"]⟩,
   ⟨0x20A0, ["0EURO-CURRENCY SIGN;0COLON~;0CRUZEIRO~;0FRENCH FRANC SIGN;0LIRA SIGN;0MILL~;0NAIRA~;0PESETA~;0RUPEE~",
     "0WON~;0NEW SHEQEL SIGN;0DONG SIGN;0EURO~;0KIP~;0TUGRIK~;0DRACHMA~;0GERMAN PENNY SIGN;0PESO SIGN;0GUARANI~",
     "0AUSTRAL~;0HRYVNIA~;0CEDI~;0LIVRE TOURNOIS SIGN;0SPESMILO SIGN;0TENGE~;0INDIAN RUPEE SIGN;0TURKISH LIRA~",
     "0NORDIC MARK~;0MANAT SIGN;0RUBLE~;0LARI~;0BITCOIN~;0SOM~"]⟩,
   ⟨0x20D0, ["0COMBINING LEFT HARPOON ABOVE;1RIGHT~;1LONG VERTICAL LINE OVERLAY;1SHORT~;1ANTICLOCKWISE ARROW ABOVE",
     "1CLOCKWISE~;1LEFT~;1RIGHT~;1RING OVERLAY;1CLOCKWISE RING OVERLAY;1ANTICLOCKWISE~;1THREE DOTS ABOVE;1FOUR~",
     "1ENCLOSING CIRCLE;2SQUARE;2DIAMOND;2CIRCLE BACKSLASH;1LEFT RIGHT ARROW ABOVE;1ENCLOSING SCREEN;2KEYCAP",
     "2UPWARD POINTING TRIANGLE;1REVERSE SOLIDUS OVERLAY;1DOUBLE VERTICAL STROKE OVERLAY;1ANNUITY SYMBOL",
     "1TRIPLE UNDERDOT;1WIDE BRIDGE ABOVE;1LEFTWARDS ARROW OVERLAY;1LONG DOUBLE SOLIDUS OVERLAY",
     "1RIGHTWARDS HARPOON WITH BARB DOWNWARDS;1LEFTWARDS~;1LEFT ARROW BELOW;1RIGHT~;1ASTERISK ABOVE"]⟩,
   ⟨0x2100, ["0ACCOUNT OF;0ADDRESSED TO THE SUBJECT;0DOUBLE-STRUCK CAPITAL C;0DEGREE CELSIUS;0CENTRE LINE SYMBOL",
     "0CARE OF;0CADA UNA;0EULER CONSTANT;0SCRUPLE;0DEGREE FAHRENHEIT;0SCRIPT SMALL G;1CAPITAL H;0BLACK-LETTER~",
     "0DOUBLE-STRUCK~;0PLANCK CONSTANT;2OVER TWO PI;0SCRIPT CAPITAL I;0BLACK-LETTER~;0SCRIPT CAPITAL L;1SMALL~",
     "0L B BAR SYMBOL;0DOUBLE-STRUCK CAPITAL N;0NUMERO SIGN;0SOUND RECORDING COPYRIGHT;0SCRIPT CAPITAL P",
     "0DOUBLE-STRUCK~;2Q;0SCRIPT CAPITAL R;0BLACK-LETTER~;0DOUBLE-STRUCK~;0PRESCRIPTION TAKE;0RESPONSE",
     "0SERVICE MARK;0TELEPHONE SIGN;0TRADE MARK SIGN;0VERSICLE;0DOUBLE-STRUCK CAPITAL Z;0OUNCE SIGN;0OHM~",
     "0INVERTED OHM SIGN;0BLACK-LETTER CAPITAL Z;0TURNED GREEK SMALL LETTER IOTA;0KELVIN SIGN;0ANGSTROM~",
     "0SCRIPT CAPITAL B;0BLACK-LETTER CAPITAL C;0ESTIMATED SYMBOL;0SCRIPT SMALL E;1CAPITAL~;2F;0TURNED~",
     "0SCRIPT CAPITAL M;1SMALL O;0ALEF SYMBOL;0BET~;0GIMEL~;0DALET~;0INFORMATION SOURCE;0ROTATED CAPITAL Q",
     "0FACSIMILE SIGN;0DOUBLE-STRUCK SMALL PI;2GAMMA;1CAPITAL~;2PI;1N-ARY SUMMATION;0TURNED SANS-SERIF CAPITAL G;3L",
     "0REVERSED~;0TURNED SANS-SERIF CAPITAL Y;0DOUBLE-STRUCK ITALIC CAPITAL D;2SMALL~;3E;3I;3J;0PROPERTY LINE",
     "0TURNED AMPERSAND;0PER SIGN;0AKTIESELSKAB;0TURNED SMALL F;0SYMBOL FOR SAMARITAN SOURCE",
     "0VULGAR FRACTION ONE SEVENTH;3NINTH;3TENTH;3THIRD;2TWO THIRDS;2ONE FIFTH;2TWO FIFTHS;2THREE~;2FOUR~",
     "2ONE SIXTH;2FIVE SIXTHS;2ONE EIGHTH;2THREE EIGHTHS;2FIVE~;2SEVEN~;0FRACTION NUMERATOR ONE;0ROMAN NUMERAL~",
     "2TWO;2THREE;2FOUR;2FIVE;2SIX;2SEVEN;2EIGHT;2NINE;2TEN;2ELEVEN;2TWELVE;2FIFTY;2ONE HUNDRED;2FIVE~",
     "2ONE THOUSAND;0SMALL ROMAN NUMERAL ONE;3TWO;3THREE;3FOUR;3FIVE;3SIX;3SEVEN;3EIGHT;3NINE;3TEN;3ELEVEN;3TWELVE",
     "3FIFTY;3ONE HUNDRED;3FIVE~;3ONE THOUSAND;0ROMAN NUMERAL ONE THOUSAND C D;2FIVE THOUSAND;2TEN~",
     "2REVERSED ONE HUNDRED;0LATIN SMALL LETTER REVERSED C;0ROMAN NUMERAL SIX LATE FORM;2FIFTY EARLY~;3THOUSAND",
     "2ONE HUNDRED THOUSAND;0VULGAR FRACTION ZERO THIRDS;0TURNED DIGIT TWO;2THREE"]⟩,
   ⟨0x2190, ["0LEFTWARDS ARROW;0UPWARDS~;0RIGHTWARDS~;0DOWNWARDS~;0LEFT RIGHT ARROW;0UP DOWN~;0NORTH WEST~;1EAST~",
     "0SOUTH~;1WEST~;0LEFTWARDS ARROW WITH STROKE;0RIGHTWARDS~;0LEFTWARDS WAVE ARROW;0RIGHTWARDS~",
     "0LEFTWARDS TWO HEADED ARROW;0UPWARDS~;0RIGHTWARDS~;0DOWNWARDS~;0LEFTWARDS ARROW WITH TAIL;0RIGHTWARDS~",
     "0LEFTWARDS ARROW FROM BAR;0UPWARDS~;0RIGHTWARDS~;0DOWNWARDS~;0UP DOWN ARROW WITH BASE",
     "0LEFTWARDS ARROW WITH HOOK;0RIGHTWARDS~;0LEFTWARDS ARROW WITH LOOP;0RIGHTWARDS~;0LEFT RIGHT WAVE ARROW",
     "2ARROW WITH STROKE;0DOWNWARDS ZIGZAG ARROW;0UPWARDS ARROW WITH TIP LEFTWARDS;4RIGHTWARDS",
     "0DOWNWARDS ARROW WITH TIP LEFTWARDS;4RIGHTWARDS;0RIGHTWARDS ARROW WITH CORNER DOWNWARDS",
     "0DOWNWARDS ARROW WITH CORNER LEFTWARDS;0ANTICLOCKWISE TOP SEMICIRCLE ARROW;0CLOCKWISE~",
     "0NORTH WEST ARROW TO LONG BAR;0LEFTWARDS ARROW TO BAR OVER RIGHTWARDS ARROW TO BAR",
     "0ANTICLOCKWISE OPEN CIRCLE ARROW;0CLOCKWISE~;0LEFTWARDS HARPOON WITH BARB UPWARDS;4DOWNWARDS",
     "0UPWARDS HARPOON WITH BARB RIGHTWARDS;4LEFTWARDS;0RIGHTWARDS HARPOON WITH BARB UPWARDS;4DOWNWARDS",
     "0DOWNWARDS HARPOON WITH BARB RIGHTWARDS;4LEFTWARDS;0RIGHTWARDS ARROW OVER LEFTWARDS ARROW",
     "0UPWARDS ARROW LEFTWARDS OF DOWNWARDS ARROW;0LEFTWARDS ARROW OVER RIGHTWARDS ARROW;1PAIRED ARROWS;0UPWARDS~",
     "0RIGHTWARDS~;0DOWNWARDS~;0LEFTWARDS HARPOON OVER RIGHTWARDS HARPOON;0RIGHTWARDS HARPOON OVER LEFTWARDS~",
     "0LEFTWARDS DOUBLE ARROW WITH STROKE;0LEFT RIGHT DOUBLE ARROW WITH STROKE;0RIGHTWARDS DOUBLE ARROW WITH STROKE",
     "0LEFTWARDS DOUBLE ARROW;0UPWARDS~;0RIGHTWARDS~;0DOWNWARDS~;0LEFT RIGHT DOUBLE ARROW;0UP DOWN~;0NORTH WEST~",
     "1EAST~;0SOUTH~;1WEST~;0LEFTWARDS TRIPLE ARROW;0RIGHTWARDS~;0LEFTWARDS SQUIGGLE~;0RIGHTWARDS~",
     "0UPWARDS ARROW WITH DOUBLE STROKE;0DOWNWARDS~;0LEFTWARDS DASHED ARROW;0UPWARDS~;0RIGHTWARDS~;0DOWNWARDS~",
     "0LEFTWARDS ARROW TO BAR;0RIGHTWARDS~;0LEFTWARDS WHITE ARROW;0UPWARDS~;0RIGHTWARDS~;0DOWNWARDS~",
     "0UPWARDS WHITE ARROW FROM BAR;3ON PEDESTAL;5WITH HORIZONTAL BAR;6VERTICAL~;2DOUBLE ARROW;4ON PEDESTAL",
     "0RIGHTWARDS WHITE ARROW FROM WALL;0NORTH WEST ARROW TO CORNER;0SOUTH EAST~;0UP DOWN WHITE ARROW",
     "0RIGHT ARROW WITH SMALL CIRCLE;0DOWNWARDS ARROW LEFTWARDS OF UPWARDS ARROW;0THREE RIGHTWARDS ARROWS",
     "0LEFTWARDS ARROW WITH VERTICAL STROKE;0RIGHTWARDS~;0LEFT RIGHT ARROW WITH VERTICAL STROKE",
     "0LEFTWARDS ARROW WITH DOUBLE~;0RIGHTWARDS~;0LEFT RIGHT ARROW WITH DOUBLE VERTICAL STROKE",
     "0LEFTWARDS OPEN-HEADED ARROW;0RIGHTWARDS~;0LEFT RIGHT OPEN-HEADED ARROW;0FOR ALL;0COMPLEMENT",
     "0PARTIAL DIFFERENTIAL;0THERE EXISTS;1DOES NOT EXIST;0EMPTY SET;0INCREMENT;0NABLA;0ELEMENT OF",
     "0NOT AN ELEMENT OF;0SMALL ELEMENT OF;0CONTAINS AS MEMBER;0DOES NOT CONTAIN AS MEMBER",
     "0SMALL CONTAINS AS MEMBER;0END OF PROOF;0N-ARY PRODUCT;1COPRODUCT;1SUMMATION;0MINUS SIGN;0MINUS-OR-PLUS~",
     "0DOT PLUS;0DIVISION SLASH;0SET MINUS;0ASTERISK OPERATOR;0RING~;0BULLET~;0SQUARE ROOT;0CUBE~;0FOURTH~",
     "0PROPORTIONAL TO;0INFINITY;0RIGHT ANGLE;0ANGLE;0MEASURED ANGLE;0SPHERICAL~;0DIVIDES;0DOES NOT DIVIDE",
     "0PARALLEL TO;0NOT PARALLEL TO;0LOGICAL AND;1OR;0INTERSECTION;0UNION;0INTEGRAL;0DOUBLE INTEGRAL;0TRIPLE~",
     "0CONTOUR~;0SURFACE~;0VOLUME~;0CLOCKWISE~;1CONTOUR INTEGRAL;0ANTICLOCKWISE~;0THEREFORE;0BECAUSE;0RATIO",
     "0PROPORTION;0DOT MINUS;0EXCESS;0GEOMETRIC PROPORTION;0HOMOTHETIC;0TILDE OPERATOR;0REVERSED TILDE",
     "0INVERTED LAZY S;0SINE WAVE;0WREATH PRODUCT;0NOT TILDE;0MINUS~;0ASYMPTOTICALLY EQUAL TO",
     "0NOT ASYMPTOTICALLY EQUAL TO;0APPROXIMATELY EQUAL TO;1BUT NOT ACTUALLY EQUAL TO;0NEITHER APPROXIMATELY NOR~",
     "0ALMOST EQUAL TO;0NOT ALMOST EQUAL TO;0ALMOST EQUAL OR EQUAL TO;0TRIPLE TILDE;0ALL EQUAL TO;0EQUIVALENT TO",
     "0GEOMETRICALLY EQUIVALENT TO;0DIFFERENCE BETWEEN;0APPROACHES THE LIMIT;0GEOMETRICALLY EQUAL TO",
     "0APPROXIMATELY EQUAL TO OR THE IMAGE OF;0IMAGE OF OR APPROXIMATELY EQUAL TO;0COLON EQUALS;0EQUALS COLON",
     "0RING IN EQUAL TO;1EQUAL TO;0CORRESPONDS TO;0ESTIMATES;0EQUIANGULAR TO;0STAR EQUALS;0DELTA EQUAL TO",
     "0EQUAL TO BY DEFINITION;0MEASURED BY;0QUESTIONED EQUAL TO;0NOT~;0IDENTICAL TO;0NOT IDENTICAL TO",
     "0STRICTLY EQUIVALENT~;0LESS-THAN OR EQUAL TO;0GREATER-THAN~;0LESS-THAN OVER~;0GREATER-THAN~",
     "0LESS-THAN BUT NOT EQUAL TO;0GREATER-THAN~;0MUCH LESS-THAN;1GREATER-THAN;0BETWEEN;0NOT EQUIVALENT TO",
     "1LESS-THAN;1GREATER-THAN;0NEITHER LESS-THAN NOR EQUAL TO;1GREATER-THAN~;0LESS-THAN OR EQUIVALENT TO",
     "0GREATER-THAN~;0NEITHER LESS-THAN NOR EQUIVALENT TO;1GREATER-THAN~;0LESS-THAN OR GREATER-THAN",
     "0GREATER-THAN OR LESS-THAN;0NEITHER LESS-THAN NOR GREATER-THAN;1GREATER-THAN NOR LESS-THAN;0PRECEDES",
     "0SUCCEEDS;0PRECEDES OR EQUAL TO;0SUCCEEDS~;0PRECEDES OR EQUIVALENT~;0SUCCEEDS~;0DOES NOT PRECEDE;2SUCCEED",
     "0SUBSET OF;0SUPERSET~;0NOT A SUBSET OF;2SUPERSET~;0SUBSET OF OR EQUAL TO;0SUPERSET~",
     "0NEITHER A SUBSET OF NOR EQUAL TO;2SUPERSET~;0SUBSET OF WITH NOT EQUAL TO;0SUPERSET~;0MULTISET",
     "1MULTIPLICATION;1UNION;0SQUARE IMAGE OF;1ORIGINAL~;1IMAGE OF OR EQUAL TO;1ORIGINAL~;1CAP;1CUP;0CIRCLED PLUS",
     "1MINUS;1TIMES;1DIVISION SLASH;1DOT OPERATOR;1RING~;1ASTERISK~;1EQUALS;1DASH;0SQUARED PLUS;1MINUS;1TIMES",
     "1DOT OPERATOR;0RIGHT TACK;0LEFT~;0DOWN~;0UP~;0ASSERTION;0MODELS;0TRUE;0FORCES",
     "0TRIPLE VERTICAL BAR RIGHT TURNSTILE;0DOUBLE VERTICAL BAR DOUBLE RIGHT TURNSTILE;0DOES NOT PROVE;0NOT TRUE",
     "0DOES NOT FORCE;0NEGATED DOUBLE VERTICAL BAR DOUBLE RIGHT TURNSTILE;0PRECEDES UNDER RELATION;0SUCCEEDS~",
     "0NORMAL SUBGROUP OF;0CONTAINS AS NORMAL SUBGROUP;0NORMAL SUBGROUP OF OR EQUAL TO",
     "0CONTAINS AS NORMAL SUBGROUP OR EQUAL TO;0ORIGINAL OF;0IMAGE~;0MULTIMAP;0HERMITIAN CONJUGATE MATRIX",
     "0INTERCALATE;0XOR;0NAND;0NOR;0RIGHT ANGLE WITH ARC;1TRIANGLE;0N-ARY LOGICAL AND;2OR;1INTERSECTION;1UNION",
     "0DIAMOND OPERATOR;0DOT~;0STAR~;0DIVISION TIMES;0BOWTIE;0LEFT NORMAL FACTOR SEMIDIRECT PRODUCT;0RIGHT~",
     "0LEFT SEMIDIRECT PRODUCT;0RIGHT~;0REVERSED TILDE EQUALS;0CURLY LOGICAL OR;2AND;0DOUBLE SUBSET;1SUPERSET",
     "1INTERSECTION;1UNION;0PITCHFORK;0EQUAL AND PARALLEL TO;0LESS-THAN WITH DOT;0GREATER-THAN~",
     "0VERY MUCH LESS-THAN;2GREATER-THAN;0LESS-THAN EQUAL TO OR GREATER-THAN;0GREATER-THAN EQUAL TO OR LESS-THAN",
     "0EQUAL TO OR LESS-THAN;3GREATER-THAN;3PRECEDES;3SUCCEEDS;0DOES NOT PRECEDE OR EQUAL;2SUCCEED~",
     "0NOT SQUARE IMAGE OF OR EQUAL TO;2ORIGINAL~;0SQUARE IMAGE OF OR NOT~;1ORIGINAL~",
     "0LESS-THAN BUT NOT EQUIVALENT TO;0GREATER-THAN~;0PRECEDES~;0SUCCEEDS~;0NOT NORMAL SUBGROUP OF",
     "0DOES NOT CONTAIN AS NORMAL SUBGROUP;0NOT NORMAL SUBGROUP OF OR EQUAL TO",
     "0DOES NOT CONTAIN AS NORMAL SUBGROUP OR EQUAL;0VERTICAL ELLIPSIS;0MIDLINE HORIZONTAL ELLIPSIS",
     "0UP RIGHT DIAGONAL ELLIPSIS;0DOWN~;0ELEMENT OF WITH LONG HORIZONTAL STROKE",
     "3VERTICAL BAR AT END OF HORIZONTAL STROKE;0SMALL ELEMENT OF WITH VERTICAL BAR AT END OF HORIZONTAL STROKE",
     "0ELEMENT OF WITH DOT ABOVE;3OVERBAR;0SMALL ELEMENT OF WITH OVERBAR;0ELEMENT OF WITH UNDERBAR",
     "3TWO HORIZONTAL STROKES;0CONTAINS WITH LONG HORIZONTAL STROKE;2VERTICAL BAR AT END OF HORIZONTAL STROKE",
     "0SMALL CONTAINS WITH VERTICAL BAR AT END OF HORIZONTAL STROKE;0CONTAINS WITH OVERBAR",
     "0SMALL CONTAINS WITH OVERBAR;0Z NOTATION BAG MEMBERSHIP;0DIAMETER SIGN;0ELECTRIC ARROW;0HOUSE;0UP ARROWHEAD",
     "0DOWN~;0PROJECTIVE;0PERSPECTIVE;0WAVY LINE;0LEFT CEILING;0RIGHT~;0LEFT FLOOR;0RIGHT~;0BOTTOM RIGHT CROP",
     "1LEFT~;0TOP RIGHT~;1LEFT~;0REVERSED NOT SIGN;0SQUARE LOZENGE;0ARC;0SEGMENT;0SECTOR;0TELEPHONE RECORDER",
     "0POSITION INDICATOR;0VIEWDATA SQUARE;0PLACE OF INTEREST SIGN;0TURNED NOT SIGN;0WATCH;0HOURGLASS",
     "0TOP LEFT CORNER;1RIGHT~;0BOTTOM LEFT~;1RIGHT~;0TOP HALF INTEGRAL;0BOTTOM~;0FROWN;0SMILE",
     "0UP ARROWHEAD BETWEEN TWO HORIZONTAL BARS;0OPTION KEY;0ERASE TO THE RIGHT;0X IN A RECTANGLE BOX;0KEYBOARD",
     "0LEFT-POINTING ANGLE BRACKET;0RIGHT-POINTING~;0ERASE TO THE LEFT;0BENZENE RING;0CYLINDRICITY",
     "0ALL AROUND-PROFILE;0SYMMETRY;0TOTAL RUNOUT;0DIMENSION ORIGIN;0CONICAL TAPER;0SLOPE;0COUNTERBORE;0COUNTERSINK",
     "0APL FUNCTIONAL SYMBOL I-BEAM;3SQUISH QUAD;3QUAD EQUAL;4DIVIDE;4DIAMOND;4JOT;4CIRCLE;3CIRCLE STILE;4JOT",
     "3SLASH BAR;3BACKSLASH~;3QUAD SLASH;4BACKSLASH;4LESS-THAN;4GREATER-THAN;3LEFTWARDS VANE;3RIGHTWARDS~",
     "3QUAD LEFTWARDS ARROW;4RIGHTWARDS~;3CIRCLE BACKSLASH;3DOWN TACK UNDERBAR;3DELTA STILE;3QUAD DOWN CARET;4DELTA",
     "3DOWN TACK JOT;3UPWARDS VANE;3QUAD UPWARDS ARROW;3UP TACK OVERBAR;3DEL STILE;3QUAD UP CARET;4DEL;3UP TACK JOT",
     "3DOWNWARDS VANE;3QUAD DOWNWARDS ARROW;3QUOTE UNDERBAR;3DELTA~;3DIAMOND~;3JOT~;3CIRCLE~;3UP SHOE JOT",
     "3QUOTE QUAD;3CIRCLE STAR;3QUAD COLON;3UP TACK DIAERESIS;3DEL DIAERESIS;3STAR~;3JOT~;3CIRCLE~;3DOWN SHOE STILE",
     "3LEFT~;3TILDE DIAERESIS;3GREATER-THAN~;3COMMA BAR;3DEL TILDE;3ZILDE;3STILE TILDE;3SEMICOLON UNDERBAR",
     "3QUAD NOT EQUAL;4QUESTION;3DOWN CARET TILDE;3UP~;3IOTA;3RHO;3OMEGA;3ALPHA UNDERBAR;3EPSILON~;3IOTA~;3OMEGA~",
     "3ALPHA;0NOT CHECK MARK;0RIGHT ANGLE WITH DOWNWARDS ZIGZAG ARROW;0SHOULDERED OPEN BOX;0BELL SYMBOL",
     "0VERTICAL LINE WITH MIDDLE DOT;0INSERTION SYMBOL;0CONTINUOUS UNDERLINE SYMBOL;0DISCONTINUOUS~",
     "0EMPHASIS SYMBOL;0COMPOSITION~;0WHITE SQUARE WITH CENTRE VERTICAL LINE;0ENTER SYMBOL;0ALTERNATIVE KEY SYMBOL",
     "0HELM SYMBOL;0CIRCLED HORIZONTAL BAR WITH NOTCH;1TRIANGLE DOWN;0BROKEN CIRCLE WITH NORTHWEST ARROW",
     "0UNDO SYMBOL;0MONOSTABLE~;0HYSTERESIS~;0OPEN-CIRCUIT-OUTPUT H-TYPE SYMBOL;1L-TYPE~",
     "0PASSIVE-PULL-DOWN-OUTPUT SYMBOL;0PASSIVE-PULL-UP-OUTPUT~;0DIRECT CURRENT SYMBOL FORM TWO",
     "0SOFTWARE-FUNCTION SYMBOL;0APL FUNCTIONAL SYMBOL QUAD;0DECIMAL SEPARATOR KEY SYMBOL;0PREVIOUS PAGE;0NEXT~",
     "0PRINT SCREEN SYMBOL;0CLEAR~;0LEFT PARENTHESIS UPPER HOOK;2EXTENSION;2LOWER HOOK;0RIGHT PARENTHESIS UPPER~",
     "2EXTENSION;2LOWER HOOK;0LEFT SQUARE BRACKET UPPER CORNER;3EXTENSION;3LOWER CORNER",
     "0RIGHT SQUARE BRACKET UPPER~;3EXTENSION;3LOWER CORNER;0LEFT CURLY BRACKET UPPER HOOK;3MIDDLE PIECE",
     "3LOWER HOOK;0CURLY BRACKET EXTENSION;0RIGHT CURLY BRACKET UPPER HOOK;3MIDDLE PIECE;3LOWER HOOK",
     "0INTEGRAL EXTENSION;0HORIZONTAL LINE EXTENSION;0UPPER LEFT OR LOWER RIGHT CURLY BRACKET SECTION",
     "1RIGHT OR LOWER LEFT~;0SUMMATION TOP;1BOTTOM;0TOP SQUARE BRACKET;0BOTTOM~;3OVER TOP SQUARE BRACKET",
     "0RADICAL SYMBOL BOTTOM;0LEFT VERTICAL BOX LINE;0RIGHT~;0HORIZONTAL SCAN LINE-1;2LINE-3;2LINE-7;2LINE-9",
     "0DENTISTRY SYMBOL LIGHT VERTICAL AND TOP RIGHT;5BOTTOM~;4WITH CIRCLE;3DOWN AND HORIZONTAL WITH CIRCLE;3UP~",
     "3VERTICAL WITH TRIANGLE;3DOWN AND HORIZONTAL WITH TRIANGLE;3UP~;3VERTICAL AND WAVE",
     "3DOWN AND HORIZONTAL WITH WAVE;3UP~;3DOWN AND HORIZONTAL;3UP~;3VERTICAL AND TOP LEFT;5BOTTOM~;0SQUARE FOOT",
     "0RETURN SYMBOL;0EJECT~;0VERTICAL LINE EXTENSION;0METRICAL BREVE;1LONG OVER SHORT;1SHORT OVER LONG",
     "1LONG OVER TWO SHORTS;1TWO SHORTS OVER LONG;3JOINED;1TRISEME;1TETRASEME;1PENTASEME;0EARTH GROUND;0FUSE",
     "0TOP PARENTHESIS;0BOTTOM~;0TOP CURLY BRACKET;0BOTTOM~;0TOP TORTOISE SHELL BRACKET;0BOTTOM~;0WHITE TRAPEZIUM",
     "0BENZENE RING WITH CIRCLE;0STRAIGHTNESS;0FLATNESS;0AC CURRENT;0ELECTRICAL INTERSECTION",
     "0DECIMAL EXPONENT SYMBOL;0BLACK RIGHT-POINTING DOUBLE TRIANGLE;1LEFT-POINTING~;1UP-POINTING~;1DOWN-POINTING~",
     "1RIGHT-POINTING DOUBLE TRIANGLE WITH VERTICAL BAR;1LEFT-POINTING~;1RIGHT-POINTING TRIANGLE WITH DOUBLE~",
     "0ALARM CLOCK;0STOPWATCH;0TIMER CLOCK;0HOURGLASS WITH FLOWING SAND;0BLACK MEDIUM LEFT-POINTING TRIANGLE",
     "2RIGHT-POINTING~;2UP-POINTING~;2DOWN-POINTING~;0DOUBLE VERTICAL BAR;0BLACK SQUARE FOR STOP;1CIRCLE FOR RECORD",
     "0POWER SYMBOL;1ON-OFF SYMBOL;1ON~;1SLEEP~;0OBSERVER EYE~;0SYMBOL FOR NULL;2START OF HEADING;4TEXT;2END~",
     "4TRANSMISSION;2ENQUIRY;2ACKNOWLEDGE;2BELL;2BACKSPACE;2HORIZONTAL TABULATION;2LINE FEED;2VERTICAL TABULATION",
     "2FORM FEED;2CARRIAGE RETURN;2SHIFT OUT;3IN;2DATA LINK ESCAPE;2DEVICE CONTROL ONE;4TWO;4THREE;4FOUR",
     "2NEGATIVE ACKNOWLEDGE;2SYNCHRONOUS IDLE;2END OF TRANSMISSION BLOCK;2CANCEL;2END OF MEDIUM;2SUBSTITUTE;2ESCAPE",
     "2FILE SEPARATOR;2GROUP~;2RECORD~;2UNIT~;2SPACE;2DELETE;0BLANK SYMBOL;0OPEN BOX;0SYMBOL FOR NEWLINE",
     "2DELETE FORM TWO;2SUBSTITUTE~"]⟩,
   ⟨0x2440, ["0OCR HOOK;1CHAIR;1FORK;1INVERTED FORK;1BELT BUCKLE;1BOW TIE;1BRANCH BANK IDENTIFICATION",
     "1AMOUNT OF CHECK;1DASH;1CUSTOMER ACCOUNT NUMBER;1DOUBLE BACKSLASH"]⟩,
   ⟨0x2460, ["0CIRCLED DIGIT ONE;2TWO;2THREE;2FOUR;2FIVE;2SIX;2SEVEN;2EIGHT;2NINE;1NUMBER TEN;2ELEVEN;2TWELVE",
     "2THIRTEEN;2FOURTEEN;2FIFTEEN;2SIXTEEN;2SEVENTEEN;2EIGHTEEN;2NINETEEN;2TWENTY;0PARENTHESIZED DIGIT ONE;2TWO",
     "2THREE;2FOUR;2FIVE;2SIX;2SEVEN;2EIGHT;2NINE;1NUMBER TEN;2ELEVEN;2TWELVE;2THIRTEEN;2FOURTEEN;2FIFTEEN;2SIXTEEN",
     "2SEVENTEEN;2EIGHTEEN;2NINETEEN;2TWENTY;0DIGIT ONE FULL STOP;1TWO~;1THREE~;1FOUR~;1FIVE~;1SIX~;1SEVEN~;1EIGHT~",
     "1NINE~;0NUMBER TEN~;1ELEVEN~;1TWELVE~;1THIRTEEN~;1FOURTEEN~;1FIFTEEN~;1SIXTEEN~;1SEVENTEEN~;1EIGHTEEN~",
     "1NINETEEN~;1TWENTY~;0PARENTHESIZED LATIN SMALL LETTER A;4B;4C;4D;4E;4F;4G;4H;4I;4J;4K;4L;4M;4N;4O;4P;4Q;4R;4S",
     "4T;4U;4V;4W;4X;4Y;4Z;0CIRCLED LATIN CAPITAL LETTER A;4B;4C;4D;4E;4F;4G;4H;4I;4J;4K;4L;4M;4N;4O;4P;4Q;4R;4S;4T",
     "4U;4V;4W;4X;4Y;4Z;2SMALL LETTER A;4B;4C;4D;4E;4F;4G;4H;4I;4J;4K;4L;4M;4N;4O;4P;4Q;4R;4S;4T;4U;4V;4W;4X;4Y;4Z",
     "1DIGIT ZERO;0NEGATIVE CIRCLED NUMBER ELEVEN;3TWELVE;3THIRTEEN;3FOURTEEN;3FIFTEEN;3SIXTEEN;3SEVENTEEN",
     "3EIGHTEEN;3NINETEEN;3TWENTY;0DOUBLE CIRCLED DIGIT ONE;3TWO;3THREE;3FOUR;3FIVE;3SIX;3SEVEN;3EIGHT;3NINE",
     "2NUMBER TEN;0NEGATIVE CIRCLED DIGIT ZERO"]⟩]

end ReportCard.Text
