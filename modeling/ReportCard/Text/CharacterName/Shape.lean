import ReportCard.Text.CharacterName.Basic

/-!
# Names of characters: Shape

The names of boxes, shapes, ornaments and more arrows, U+2500 to U+2BFF.
-/

namespace ReportCard.Text

/-- The names of boxes, shapes, ornaments and more arrows. -/
def shapeNames : List NameRun :=
  [⟨0x2500, ["0BOX DRAWINGS LIGHT HORIZONTAL;2HEAVY~;2LIGHT VERTICAL;2HEAVY~;2LIGHT TRIPLE DASH HORIZONTAL;2HEAVY~",
     "2LIGHT TRIPLE DASH VERTICAL;2HEAVY~;2LIGHT QUADRUPLE DASH HORIZONTAL;2HEAVY~;2LIGHT QUADRUPLE DASH VERTICAL",
     "2HEAVY~;2LIGHT DOWN AND RIGHT;2DOWN LIGHT AND RIGHT HEAVY;3HEAVY AND RIGHT LIGHT;2HEAVY DOWN AND RIGHT",
     "2LIGHT DOWN AND LEFT;2DOWN LIGHT AND LEFT HEAVY;3HEAVY AND LEFT LIGHT;2HEAVY DOWN AND LEFT",
     "2LIGHT UP AND RIGHT;2UP LIGHT AND RIGHT HEAVY;3HEAVY AND RIGHT LIGHT;2HEAVY UP AND RIGHT;2LIGHT UP AND LEFT",
     "2UP LIGHT AND LEFT HEAVY;3HEAVY AND LEFT LIGHT;2HEAVY UP AND LEFT;2LIGHT VERTICAL AND RIGHT",
     "2VERTICAL LIGHT AND RIGHT HEAVY;2UP HEAVY AND RIGHT DOWN LIGHT;2DOWN HEAVY AND RIGHT UP~",
     "2VERTICAL HEAVY AND RIGHT LIGHT;2DOWN LIGHT AND RIGHT UP HEAVY;2UP LIGHT AND RIGHT DOWN~",
     "2HEAVY VERTICAL AND RIGHT;2LIGHT VERTICAL AND LEFT;2VERTICAL LIGHT AND LEFT HEAVY",
     "2UP HEAVY AND LEFT DOWN LIGHT;2DOWN HEAVY AND LEFT UP~;2VERTICAL HEAVY AND LEFT LIGHT",
     "2DOWN LIGHT AND LEFT UP HEAVY;2UP LIGHT AND LEFT DOWN~;2HEAVY VERTICAL AND LEFT;2LIGHT DOWN AND HORIZONTAL",
     "2LEFT HEAVY AND RIGHT DOWN LIGHT;2RIGHT HEAVY AND LEFT~;2DOWN LIGHT AND HORIZONTAL HEAVY",
     "3HEAVY AND HORIZONTAL LIGHT;2RIGHT LIGHT AND LEFT DOWN HEAVY;2LEFT LIGHT AND RIGHT~",
     "2HEAVY DOWN AND HORIZONTAL;2LIGHT UP~;2LEFT HEAVY AND RIGHT UP LIGHT;2RIGHT HEAVY AND LEFT~",
     "2UP LIGHT AND HORIZONTAL HEAVY;3HEAVY AND HORIZONTAL LIGHT;2RIGHT LIGHT AND LEFT UP HEAVY",
     "2LEFT LIGHT AND RIGHT~;2HEAVY UP AND HORIZONTAL;2LIGHT VERTICAL~;2LEFT HEAVY AND RIGHT VERTICAL LIGHT",
     "2RIGHT HEAVY AND LEFT~;2VERTICAL LIGHT AND HORIZONTAL HEAVY;2UP HEAVY AND DOWN HORIZONTAL LIGHT",
     "2DOWN HEAVY AND UP~;2VERTICAL HEAVY AND HORIZONTAL LIGHT;2LEFT UP HEAVY AND RIGHT DOWN LIGHT",
     "2RIGHT UP HEAVY AND LEFT~;2LEFT DOWN HEAVY AND RIGHT UP~;2RIGHT DOWN HEAVY AND LEFT~",
     "2DOWN LIGHT AND UP HORIZONTAL HEAVY;2UP LIGHT AND DOWN~;2RIGHT LIGHT AND LEFT VERTICAL~",
     "2LEFT LIGHT AND RIGHT~;2HEAVY VERTICAL AND HORIZONTAL;2LIGHT DOUBLE DASH~;2HEAVY~;2LIGHT DOUBLE DASH VERTICAL",
     "2HEAVY~;2DOUBLE HORIZONTAL;3VERTICAL;2DOWN SINGLE AND RIGHT DOUBLE;3DOUBLE AND RIGHT SINGLE",
     "2DOUBLE DOWN AND RIGHT;2DOWN SINGLE AND LEFT DOUBLE;3DOUBLE AND LEFT SINGLE;2DOUBLE DOWN AND LEFT",
     "2UP SINGLE AND RIGHT DOUBLE;3DOUBLE AND RIGHT SINGLE;2DOUBLE UP AND RIGHT;2UP SINGLE AND LEFT DOUBLE",
     "3DOUBLE AND LEFT SINGLE;2DOUBLE UP AND LEFT;2VERTICAL SINGLE AND RIGHT DOUBLE;3DOUBLE AND RIGHT SINGLE",
     "2DOUBLE VERTICAL AND RIGHT;2VERTICAL SINGLE AND LEFT DOUBLE;3DOUBLE AND LEFT SINGLE;2DOUBLE VERTICAL AND LEFT",
     "2DOWN SINGLE AND HORIZONTAL DOUBLE;3DOUBLE AND HORIZONTAL SINGLE;2DOUBLE DOWN AND HORIZONTAL",
     "2UP SINGLE AND HORIZONTAL DOUBLE;3DOUBLE AND HORIZONTAL SINGLE;2DOUBLE UP AND HORIZONTAL",
     "2VERTICAL SINGLE AND HORIZONTAL DOUBLE;3DOUBLE AND HORIZONTAL SINGLE;2DOUBLE VERTICAL AND HORIZONTAL",
     "2LIGHT ARC DOWN AND RIGHT;6LEFT;4UP~;6RIGHT;3DIAGONAL UPPER RIGHT TO LOWER LEFT;5LEFT TO LOWER RIGHT;4CROSS",
     "3LEFT;3UP;3RIGHT;3DOWN;2HEAVY LEFT;3UP;3RIGHT;3DOWN;2LIGHT LEFT AND HEAVY RIGHT;3UP AND HEAVY DOWN",
     "2HEAVY LEFT AND LIGHT RIGHT;3UP AND LIGHT DOWN;0UPPER HALF BLOCK;0LOWER ONE EIGHTH BLOCK;2QUARTER~",
     "1THREE EIGHTHS~;1HALF BLOCK;1FIVE EIGHTHS BLOCK;1THREE QUARTERS~;1SEVEN EIGHTHS~;0FULL BLOCK",
     "0LEFT SEVEN EIGHTHS BLOCK;1THREE QUARTERS~;1FIVE EIGHTHS~;1HALF BLOCK;1THREE EIGHTHS BLOCK;1ONE QUARTER~",
     "2EIGHTH~;0RIGHT HALF BLOCK;0LIGHT SHADE;0MEDIUM~;0DARK~;0UPPER ONE EIGHTH BLOCK;0RIGHT~;0QUADRANT LOWER LEFT",
     "2RIGHT;1UPPER LEFT;3AND LOWER LEFT AND LOWER RIGHT;5RIGHT;4UPPER RIGHT AND LOWER LEFT;8RIGHT;2RIGHT",
     "3AND LOWER LEFT;6AND LOWER RIGHT;0BLACK SQUARE;0WHITE~;2WITH ROUNDED CORNERS;2CONTAINING BLACK SMALL SQUARE",
     "0SQUARE WITH HORIZONTAL FILL;2VERTICAL~;2ORTHOGONAL CROSSHATCH FILL;2UPPER LEFT TO LOWER RIGHT FILL",
     "3RIGHT TO LOWER LEFT~;2DIAGONAL CROSSHATCH FILL;0BLACK SMALL SQUARE;0WHITE~;0BLACK RECTANGLE;0WHITE~",
     "0BLACK VERTICAL RECTANGLE;0WHITE~;0BLACK PARALLELOGRAM;0WHITE~;0BLACK UP-POINTING TRIANGLE;0WHITE~",
     "0BLACK UP-POINTING SMALL TRIANGLE;0WHITE~;0BLACK RIGHT-POINTING TRIANGLE;0WHITE~",
     "0BLACK RIGHT-POINTING SMALL TRIANGLE;0WHITE~;0BLACK RIGHT-POINTING POINTER;0WHITE~",
     "0BLACK DOWN-POINTING TRIANGLE;0WHITE~;0BLACK DOWN-POINTING SMALL TRIANGLE;0WHITE~",
     "0BLACK LEFT-POINTING TRIANGLE;0WHITE~;0BLACK LEFT-POINTING SMALL TRIANGLE;0WHITE~",
     "0BLACK LEFT-POINTING POINTER;0WHITE~;0BLACK DIAMOND;0WHITE~;2CONTAINING BLACK SMALL DIAMOND;0FISHEYE;0LOZENGE",
     "0WHITE CIRCLE;0DOTTED~;0CIRCLE WITH VERTICAL FILL;0BULLSEYE;0BLACK CIRCLE;0CIRCLE WITH LEFT HALF BLACK",
     "2RIGHT~;2LOWER~;2UPPER~;3RIGHT QUADRANT BLACK;2ALL BUT UPPER LEFT QUADRANT BLACK;0LEFT HALF BLACK CIRCLE",
     "0RIGHT~;0INVERSE BULLET;1WHITE CIRCLE;0UPPER HALF INVERSE WHITE CIRCLE;0LOWER~",
     "0UPPER LEFT QUADRANT CIRCULAR ARC;1RIGHT~;0LOWER~;1LEFT~;0UPPER HALF CIRCLE;0LOWER~",
     "0BLACK LOWER RIGHT TRIANGLE;2LEFT~;1UPPER~;2RIGHT~;0WHITE BULLET;0SQUARE WITH LEFT HALF BLACK;2RIGHT~",
     "2UPPER LEFT DIAGONAL HALF BLACK;2LOWER RIGHT~;0WHITE SQUARE WITH VERTICAL BISECTING LINE",
     "1UP-POINTING TRIANGLE WITH DOT;0UP-POINTING TRIANGLE WITH LEFT HALF BLACK;3RIGHT~;0LARGE CIRCLE",
     "0WHITE SQUARE WITH UPPER LEFT QUADRANT;3LOWER~;4RIGHT~;3UPPER~;1CIRCLE WITH UPPER LEFT~;3LOWER~;4RIGHT~",
     "3UPPER~;0UPPER LEFT TRIANGLE;1RIGHT~;0LOWER LEFT~;0WHITE MEDIUM SQUARE;0BLACK~;0WHITE MEDIUM SMALL SQUARE",
     "0BLACK~;0LOWER RIGHT TRIANGLE;0BLACK SUN WITH RAYS;0CLOUD;0UMBRELLA;0SNOWMAN;0COMET;0BLACK STAR;0WHITE~",
     "0LIGHTNING;0THUNDERSTORM;0SUN;0ASCENDING NODE;0DESCENDING~;0CONJUNCTION;0OPPOSITION;0BLACK TELEPHONE;0WHITE~",
     "0BALLOT BOX;2WITH CHECK;3X;0SALTIRE;0UMBRELLA WITH RAIN DROPS;0HOT BEVERAGE;0WHITE SHOGI PIECE;0BLACK~",
     "0SHAMROCK;0REVERSED ROTATED FLORAL HEART BULLET;0BLACK LEFT POINTING INDEX;1RIGHT~;0WHITE LEFT~;1UP~;1RIGHT~",
     "1DOWN~;0SKULL AND CROSSBONES;0CAUTION SIGN;0RADIOACTIVE~;0BIOHAZARD~;0CADUCEUS;0ANKH;0ORTHODOX CROSS;0CHI RHO",
     "0CROSS OF LORRAINE;2JERUSALEM;0STAR AND CRESCENT;0FARSI SYMBOL;0ADI SHAKTI;0HAMMER AND SICKLE;0PEACE SYMBOL",
     "0YIN YANG;0TRIGRAM FOR HEAVEN;2LAKE;2FIRE;2THUNDER;2WIND;2WATER;2MOUNTAIN;2EARTH;0WHEEL OF DHARMA",
     "0WHITE FROWNING FACE;1SMILING~;0BLACK~;0WHITE SUN WITH RAYS;0FIRST QUARTER MOON;0LAST~;0MERCURY;0FEMALE SIGN",
     "0EARTH;0MALE SIGN;0JUPITER;0SATURN;0URANUS;0NEPTUNE;0PLUTO;0ARIES;0TAURUS;0GEMINI;0CANCER;0LEO;0VIRGO;0LIBRA",
     "0SCORPIUS;0SAGITTARIUS;0CAPRICORN;0AQUARIUS;0PISCES;0WHITE CHESS KING;2QUEEN;2ROOK;2BISHOP;2KNIGHT;2PAWN",
     "0BLACK CHESS KING;2QUEEN;2ROOK;2BISHOP;2KNIGHT;2PAWN;1SPADE SUIT;0WHITE HEART~;1DIAMOND~;0BLACK CLUB~",
     "0WHITE SPADE~;0BLACK HEART~;1DIAMOND~;0WHITE CLUB~;0HOT SPRINGS;0QUARTER NOTE;0EIGHTH~;0BEAMED EIGHTH NOTES",
     "1SIXTEENTH~;0MUSIC FLAT SIGN;1NATURAL~;1SHARP~;0WEST SYRIAC CROSS;0EAST~;0UNIVERSAL RECYCLING SYMBOL",
     "0RECYCLING SYMBOL FOR TYPE-1 PLASTICS;3TYPE-2~;3TYPE-3~;3TYPE-4~;3TYPE-5~;3TYPE-6~;3TYPE-7~",
     "3GENERIC MATERIALS;0BLACK UNIVERSAL RECYCLING SYMBOL;0RECYCLED PAPER SYMBOL;0PARTIALLY-RECYCLED~",
     "0PERMANENT PAPER SIGN;0WHEELCHAIR SYMBOL;0DIE FACE-1;1FACE-2;1FACE-3;1FACE-4;1FACE-5;1FACE-6",
     "0WHITE CIRCLE WITH DOT RIGHT;3TWO DOTS;0BLACK CIRCLE WITH WHITE DOT RIGHT;3TWO WHITE DOTS;0MONOGRAM FOR YANG",
     "2YIN;0DIGRAM FOR GREATER YANG;2LESSER YIN;3YANG;2GREATER YIN;0WHITE FLAG;0BLACK~;0HAMMER AND PICK;0ANCHOR",
     "0CROSSED SWORDS;0STAFF OF AESCULAPIUS;0SCALES;0ALEMBIC;0FLOWER;0GEAR;0STAFF OF HERMES;0ATOM SYMBOL",
     "0FLEUR-DE-LIS;0OUTLINED WHITE STAR;0THREE LINES CONVERGING RIGHT;3LEFT;0WARNING SIGN;0HIGH VOLTAGE SIGN",
     "0DOUBLED FEMALE~;1MALE~;0INTERLOCKED FEMALE AND MALE SIGN;0MALE AND FEMALE SIGN;1WITH STROKE~",
     "3AND MALE AND FEMALE SIGN;0VERTICAL MALE WITH STROKE SIGN;0HORIZONTAL~;0MEDIUM WHITE CIRCLE;1BLACK~",
     "1SMALL WHITE CIRCLE;0MARRIAGE SYMBOL;0DIVORCE~;0UNMARRIED PARTNERSHIP SYMBOL;0COFFIN;0FUNERAL URN;0NEUTER",
     "0CERES;0PALLAS;0JUNO;0VESTA;0CHIRON;0BLACK MOON LILITH;0SEXTILE;0SEMISEXTILE;0QUINCUNX;0SESQUIQUADRATE",
     "0SOCCER BALL;0BASEBALL;0SQUARED KEY;0WHITE DRAUGHTS MAN;2KING;0BLACK DRAUGHTS MAN;2KING;0SNOWMAN WITHOUT SNOW",
     "0SUN BEHIND CLOUD;0RAIN;0BLACK SNOWMAN;0THUNDER CLOUD AND RAIN;0TURNED WHITE SHOGI PIECE;1BLACK~",
     "0WHITE DIAMOND IN SQUARE;0CROSSING LANES;0DISABLED CAR;0OPHIUCHUS;0PICK;0CAR SLIDING;0HELMET WITH WHITE CROSS",
     "0CIRCLED CROSSING LANES;0CHAINS;0NO ENTRY;0ALTERNATE ONE-WAY LEFT WAY TRAFFIC;0BLACK TWO-WAY~;0WHITE~",
     "0BLACK LEFT LANE MERGE;0WHITE~;0DRIVE SLOW SIGN;0HEAVY WHITE DOWN-POINTING TRIANGLE;0LEFT CLOSED ENTRY",
     "0SQUARED SALTIRE;0FALLING DIAGONAL IN WHITE CIRCLE IN BLACK SQUARE;0BLACK TRUCK;0RESTRICTED LEFT ENTRY-1",
     "2ENTRY-2;0ASTRONOMICAL SYMBOL FOR URANUS;0HEAVY CIRCLE WITH STROKE AND TWO DOTS ABOVE;0PENTAGRAM",
     "0RIGHT-HANDED INTERLACED PENTAGRAM;0LEFT-HANDED~;0INVERTED PENTAGRAM;0BLACK CROSS ON SHIELD;0SHINTO SHRINE",
     "0CHURCH;0CASTLE;0HISTORIC SITE;0GEAR WITHOUT HUB;1WITH HANDLES;0MAP SYMBOL FOR LIGHTHOUSE;0MOUNTAIN",
     "0UMBRELLA ON GROUND;0FOUNTAIN;0FLAG IN HOLE;0FERRY;0SAILBOAT;0SQUARE FOUR CORNERS;0SKIER;0ICE SKATE",
     "0PERSON WITH BALL;0TENT;0JAPANESE BANK SYMBOL;0HEADSTONE GRAVEYARD~;0FUEL PUMP;0CUP ON BLACK SQUARE",
     "0WHITE FLAG WITH HORIZONTAL MIDDLE BLACK STRIPE;0BLACK SAFETY SCISSORS;0UPPER BLADE~;0BLACK SCISSORS",
     "0LOWER BLADE SCISSORS;0WHITE SCISSORS;1HEAVY CHECK MARK;0TELEPHONE LOCATION SIGN;0TAPE DRIVE;0AIRPLANE",
     "0ENVELOPE;0RAISED FIST;1HAND;0VICTORY~;0WRITING~;0LOWER RIGHT PENCIL;0PENCIL;0UPPER RIGHT PENCIL;0WHITE NIB",
     "0BLACK~;0CHECK MARK;0HEAVY CHECK MARK;0MULTIPLICATION X;0HEAVY MULTIPLICATION X;0BALLOT X;0HEAVY BALLOT X",
     "0OUTLINED GREEK CROSS;0HEAVY~;0OPEN CENTRE~;0HEAVY OPEN CENTRE CROSS;0LATIN CROSS;0SHADOWED WHITE LATIN CROSS",
     "0OUTLINED LATIN CROSS;0MALTESE CROSS;0STAR OF DAVID;0FOUR TEARDROP-SPOKED ASTERISK;1BALLOON-SPOKED~",
     "0HEAVY FOUR BALLOON-SPOKED ASTERISK;0FOUR CLUB-SPOKED ASTERISK;0BLACK FOUR POINTED STAR;0WHITE~;0SPARKLES",
     "0STRESS OUTLINED WHITE STAR;0CIRCLED WHITE STAR;0OPEN CENTRE BLACK STAR;0BLACK CENTRE WHITE~",
     "0OUTLINED BLACK STAR;0HEAVY OUTLINED BLACK STAR;0PINWHEEL STAR;0SHADOWED WHITE STAR;0HEAVY ASTERISK",
     "0OPEN CENTRE ASTERISK;0EIGHT SPOKED~;1POINTED BLACK STAR;2PINWHEEL~;0SIX POINTED BLACK~",
     "0EIGHT POINTED RECTILINEAR BLACK STAR;0HEAVY EIGHT POINTED RECTILINEAR BLACK STAR;0TWELVE POINTED BLACK STAR",
     "0SIXTEEN POINTED ASTERISK;0TEARDROP-SPOKED ASTERISK;0OPEN CENTRE TEARDROP-SPOKED ASTERISK",
     "0HEAVY TEARDROP-SPOKED ASTERISK;0SIX PETALLED BLACK AND WHITE FLORETTE;0BLACK FLORETTE;0WHITE~",
     "0EIGHT PETALLED OUTLINED BLACK FLORETTE;0CIRCLED OPEN CENTRE EIGHT POINTED STAR",
     "0HEAVY TEARDROP-SPOKED PINWHEEL ASTERISK;0SNOWFLAKE;0TIGHT TRIFOLIATE SNOWFLAKE;0HEAVY CHEVRON~;0SPARKLE",
     "0HEAVY SPARKLE;0BALLOON-SPOKED ASTERISK;0EIGHT TEARDROP-SPOKED PROPELLER ASTERISK",
     "0HEAVY EIGHT TEARDROP-SPOKED PROPELLER ASTERISK;0CROSS MARK;0SHADOWED WHITE CIRCLE",
     "0NEGATIVE SQUARED CROSS MARK;0LOWER RIGHT DROP-SHADOWED WHITE SQUARE;0UPPER~;0LOWER RIGHT SHADOWED~;0UPPER~",
     "0BLACK QUESTION MARK ORNAMENT;0WHITE~;1EXCLAMATION~;0BLACK DIAMOND MINUS WHITE X",
     "0HEAVY EXCLAMATION MARK SYMBOL;0LIGHT VERTICAL BAR;0MEDIUM~;0HEAVY~",
     "1SINGLE TURNED COMMA QUOTATION MARK ORNAMENT;2COMMA QUOTATION MARK ORNAMENT",
     "1DOUBLE TURNED COMMA QUOTATION MARK ORNAMENT;2COMMA QUOTATION MARK ORNAMENT",
     "1LOW SINGLE COMMA QUOTATION MARK ORNAMENT;2DOUBLE~;0CURVED STEM PARAGRAPH SIGN ORNAMENT",
     "0HEAVY EXCLAMATION MARK ORNAMENT;1HEART EXCLAMATION MARK ORNAMENT;1BLACK HEART",
     "0ROTATED HEAVY BLACK HEART BULLET;0FLORAL HEART;0ROTATED FLORAL HEART BULLET",
     "0MEDIUM LEFT PARENTHESIS ORNAMENT;1RIGHT~;1FLATTENED LEFT PARENTHESIS ORNAMENT;2RIGHT~",
     "1LEFT-POINTING ANGLE BRACKET~;1RIGHT-POINTING~;0HEAVY LEFT-POINTING ANGLE QUOTATION MARK ORNAMENT",
     "1RIGHT-POINTING~;1LEFT-POINTING ANGLE BRACKET ORNAMENT;1RIGHT-POINTING~",
     "0LIGHT LEFT TORTOISE SHELL BRACKET ORNAMENT;1RIGHT~;0MEDIUM LEFT CURLY BRACKET ORNAMENT;1RIGHT~",
     "0DINGBAT NEGATIVE CIRCLED DIGIT ONE;4TWO;4THREE;4FOUR;4FIVE;4SIX;4SEVEN;4EIGHT;4NINE;3NUMBER TEN",
     "1CIRCLED SANS-SERIF DIGIT ONE;4TWO;4THREE;4FOUR;4FIVE;4SIX;4SEVEN;4EIGHT;4NINE;3NUMBER TEN",
     "1NEGATIVE CIRCLED SANS-SERIF DIGIT ONE;5TWO;5THREE;5FOUR;5FIVE;5SIX;5SEVEN;5EIGHT;5NINE;4NUMBER TEN",
     "0HEAVY WIDE-HEADED RIGHTWARDS ARROW;1PLUS SIGN;1MINUS~;1DIVISION~;1SOUTH EAST ARROW;1RIGHTWARDS ARROW",
     "1NORTH EAST ARROW;0DRAFTING POINT RIGHTWARDS~;0HEAVY ROUND-TIPPED~;0TRIANGLE-HEADED RIGHTWARDS ARROW",
     "0HEAVY TRIANGLE-HEADED RIGHTWARDS ARROW;0DASHED~;0HEAVY DASHED TRIANGLE-HEADED RIGHTWARDS ARROW",
     "0BLACK RIGHTWARDS ARROW;0THREE-D TOP-LIGHTED RIGHTWARDS ARROWHEAD;1BOTTOM-LIGHTED~",
     "0BLACK RIGHTWARDS ARROWHEAD;0HEAVY BLACK CURVED DOWNWARDS AND RIGHTWARDS ARROW;3UPWARDS~",
     "0SQUAT BLACK RIGHTWARDS ARROW;0HEAVY CONCAVE-POINTED BLACK RIGHTWARDS ARROW",
     "0RIGHT-SHADED WHITE RIGHTWARDS ARROW;0LEFT-SHADED~;0BACK-TILTED SHADOWED WHITE RIGHTWARDS ARROW",
     "0FRONT-TILTED~;0HEAVY LOWER RIGHT-SHADOWED WHITE RIGHTWARDS ARROW;1UPPER~;0NOTCHED LOWER~;0CURLY LOOP",
     "0NOTCHED UPPER RIGHT-SHADOWED WHITE RIGHTWARDS ARROW;0CIRCLED HEAVY WHITE RIGHTWARDS ARROW",
     "0WHITE-FEATHERED RIGHTWARDS ARROW;0BLACK-FEATHERED SOUTH EAST ARROW;1RIGHTWARDS ARROW;1NORTH EAST ARROW",
     "0HEAVY BLACK-FEATHERED SOUTH EAST ARROW;2RIGHTWARDS ARROW;2NORTH EAST ARROW;0TEARDROP-BARBED RIGHTWARDS ARROW",
     "0HEAVY TEARDROP-SHANKED RIGHTWARDS ARROW;0WEDGE-TAILED RIGHTWARDS ARROW;0HEAVY WEDGE-TAILED RIGHTWARDS ARROW",
     "0OPEN-OUTLINED RIGHTWARDS ARROW;0DOUBLE CURLY LOOP;0THREE DIMENSIONAL ANGLE",
     "0WHITE TRIANGLE CONTAINING SMALL WHITE TRIANGLE;0PERPENDICULAR;0OPEN SUBSET;1SUPERSET",
     "0LEFT S-SHAPED BAG DELIMITER;0RIGHT~;0OR WITH DOT INSIDE;0REVERSE SOLIDUS PRECEDING SUBSET",
     "0SUPERSET PRECEDING SOLIDUS;0VERTICAL BAR WITH HORIZONTAL STROKE;0MATHEMATICAL RISING DIAGONAL;0LONG DIVISION",
     "0MATHEMATICAL FALLING DIAGONAL;0SQUARED LOGICAL AND;2OR;0WHITE DIAMOND WITH CENTRED DOT;0AND WITH DOT",
     "0ELEMENT OF OPENING UPWARDS;0LOWER RIGHT CORNER WITH DOT;0UPPER LEFT~;0LEFT OUTER JOIN;0RIGHT~;0FULL~",
     "0LARGE UP TACK;1DOWN~;0LEFT AND RIGHT DOUBLE TURNSTILE;3TACK;1MULTIMAP;0LONG RIGHT TACK;1LEFT~",
     "0UP TACK WITH CIRCLE ABOVE;0LOZENGE DIVIDED BY HORIZONTAL RULE;0WHITE CONCAVE-SIDED DIAMOND",
     "3WITH LEFTWARDS TICK;4RIGHTWARDS~;1SQUARE WITH LEFTWARDS TICK;3RIGHTWARDS~",
     "0MATHEMATICAL LEFT WHITE SQUARE BRACKET;1RIGHT~;1LEFT ANGLE BRACKET;1RIGHT~;1LEFT DOUBLE ANGLE BRACKET",
     "1RIGHT~;1LEFT WHITE TORTOISE SHELL BRACKET;1RIGHT~;1LEFT FLATTENED PARENTHESIS;1RIGHT~",
     "0UPWARDS QUADRUPLE ARROW;0DOWNWARDS~;0ANTICLOCKWISE GAPPED CIRCLE ARROW;0CLOCKWISE~",
     "0RIGHT ARROW WITH CIRCLED PLUS;0LONG LEFTWARDS ARROW;1RIGHTWARDS~;1LEFT RIGHT ARROW;1LEFTWARDS DOUBLE~",
     "1RIGHTWARDS~;1LEFT RIGHT DOUBLE ARROW;1LEFTWARDS ARROW FROM BAR;1RIGHTWARDS~;1LEFTWARDS DOUBLE ARROW FROM BAR",
     "1RIGHTWARDS~;2SQUIGGLE ARROW;0BRAILLE PATTERN BLANK;2DOTS-1;2DOTS-2;2DOTS-12;2DOTS-3;2DOTS-13;2DOTS-23",
     "2DOTS-123;2DOTS-4;2DOTS-14;2DOTS-24;2DOTS-124;2DOTS-34;2DOTS-134;2DOTS-234;2DOTS-1234;2DOTS-5;2DOTS-15",
     "2DOTS-25;2DOTS-125;2DOTS-35;2DOTS-135;2DOTS-235;2DOTS-1235;2DOTS-45;2DOTS-145;2DOTS-245;2DOTS-1245;2DOTS-345",
     "2DOTS-1345;2DOTS-2345;2DOTS-12345;2DOTS-6;2DOTS-16;2DOTS-26;2DOTS-126;2DOTS-36;2DOTS-136;2DOTS-236;2DOTS-1236",
     "2DOTS-46;2DOTS-146;2DOTS-246;2DOTS-1246;2DOTS-346;2DOTS-1346;2DOTS-2346;2DOTS-12346;2DOTS-56;2DOTS-156",
     "2DOTS-256;2DOTS-1256;2DOTS-356;2DOTS-1356;2DOTS-2356;2DOTS-12356;2DOTS-456;2DOTS-1456;2DOTS-2456;2DOTS-12456",
     "2DOTS-3456;2DOTS-13456;2DOTS-23456;2DOTS-123456;2DOTS-7;2DOTS-17;2DOTS-27;2DOTS-127;2DOTS-37;2DOTS-137",
     "2DOTS-237;2DOTS-1237;2DOTS-47;2DOTS-147;2DOTS-247;2DOTS-1247;2DOTS-347;2DOTS-1347;2DOTS-2347;2DOTS-12347",
     "2DOTS-57;2DOTS-157;2DOTS-257;2DOTS-1257;2DOTS-357;2DOTS-1357;2DOTS-2357;2DOTS-12357;2DOTS-457;2DOTS-1457",
     "2DOTS-2457;2DOTS-12457;2DOTS-3457;2DOTS-13457;2DOTS-23457;2DOTS-123457;2DOTS-67;2DOTS-167;2DOTS-267",
     "2DOTS-1267;2DOTS-367;2DOTS-1367;2DOTS-2367;2DOTS-12367;2DOTS-467;2DOTS-1467;2DOTS-2467;2DOTS-12467;2DOTS-3467",
     "2DOTS-13467;2DOTS-23467;2DOTS-123467;2DOTS-567;2DOTS-1567;2DOTS-2567;2DOTS-12567;2DOTS-3567;2DOTS-13567",
     "2DOTS-23567;2DOTS-123567;2DOTS-4567;2DOTS-14567;2DOTS-24567;2DOTS-124567;2DOTS-34567;2DOTS-134567",
     "2DOTS-234567;2DOTS-1234567;2DOTS-8;2DOTS-18;2DOTS-28;2DOTS-128;2DOTS-38;2DOTS-138;2DOTS-238;2DOTS-1238",
     "2DOTS-48;2DOTS-148;2DOTS-248;2DOTS-1248;2DOTS-348;2DOTS-1348;2DOTS-2348;2DOTS-12348;2DOTS-58;2DOTS-158",
     "2DOTS-258;2DOTS-1258;2DOTS-358;2DOTS-1358;2DOTS-2358;2DOTS-12358;2DOTS-458;2DOTS-1458;2DOTS-2458;2DOTS-12458",
     "2DOTS-3458;2DOTS-13458;2DOTS-23458;2DOTS-123458;2DOTS-68;2DOTS-168;2DOTS-268;2DOTS-1268;2DOTS-368;2DOTS-1368",
     "2DOTS-2368;2DOTS-12368;2DOTS-468;2DOTS-1468;2DOTS-2468;2DOTS-12468;2DOTS-3468;2DOTS-13468;2DOTS-23468",
     "2DOTS-123468;2DOTS-568;2DOTS-1568;2DOTS-2568;2DOTS-12568;2DOTS-3568;2DOTS-13568;2DOTS-23568;2DOTS-123568",
     "2DOTS-4568;2DOTS-14568;2DOTS-24568;2DOTS-124568;2DOTS-34568;2DOTS-134568;2DOTS-234568;2DOTS-1234568;2DOTS-78",
     "2DOTS-178;2DOTS-278;2DOTS-1278;2DOTS-378;2DOTS-1378;2DOTS-2378;2DOTS-12378;2DOTS-478;2DOTS-1478;2DOTS-2478",
     "2DOTS-12478;2DOTS-3478;2DOTS-13478;2DOTS-23478;2DOTS-123478;2DOTS-578;2DOTS-1578;2DOTS-2578;2DOTS-12578",
     "2DOTS-3578;2DOTS-13578;2DOTS-23578;2DOTS-123578;2DOTS-4578;2DOTS-14578;2DOTS-24578;2DOTS-124578;2DOTS-34578",
     "2DOTS-134578;2DOTS-234578;2DOTS-1234578;2DOTS-678;2DOTS-1678;2DOTS-2678;2DOTS-12678;2DOTS-3678;2DOTS-13678",
     "2DOTS-23678;2DOTS-123678;2DOTS-4678;2DOTS-14678;2DOTS-24678;2DOTS-124678;2DOTS-34678;2DOTS-134678",
     "2DOTS-234678;2DOTS-1234678;2DOTS-5678;2DOTS-15678;2DOTS-25678;2DOTS-125678;2DOTS-35678;2DOTS-135678",
     "2DOTS-235678;2DOTS-1235678;2DOTS-45678;2DOTS-145678;2DOTS-245678;2DOTS-1245678;2DOTS-345678;2DOTS-1345678",
     "2DOTS-2345678;2DOTS-12345678;0RIGHTWARDS TWO-HEADED ARROW WITH VERTICAL STROKE;4DOUBLE VERTICAL STROKE",
     "0LEFTWARDS DOUBLE ARROW WITH VERTICAL STROKE;0RIGHTWARDS~;0LEFT RIGHT DOUBLE ARROW WITH VERTICAL STROKE",
     "0RIGHTWARDS TWO-HEADED ARROW FROM BAR;0LEFTWARDS DOUBLE~;0RIGHTWARDS~;0DOWNWARDS ARROW WITH HORIZONTAL STROKE",
     "0UPWARDS~;1TRIPLE ARROW;0DOWNWARDS~;0LEFTWARDS DOUBLE DASH ARROW;0RIGHTWARDS~;0LEFTWARDS TRIPLE~;0RIGHTWARDS~",
     "1TWO-HEADED TRIPLE DASH ARROW;1ARROW WITH DOTTED STEM;0UPWARDS ARROW TO BAR;0DOWNWARDS~",
     "0RIGHTWARDS ARROW WITH TAIL WITH VERTICAL STROKE;5DOUBLE VERTICAL STROKE;1TWO-HEADED ARROW WITH TAIL",
     "5WITH VERTICAL STROKE;6DOUBLE VERTICAL STROKE;0LEFTWARDS ARROW-TAIL;0RIGHTWARDS~;0LEFTWARDS DOUBLE ARROW-TAIL",
     "0RIGHTWARDS~;0LEFTWARDS ARROW TO BLACK DIAMOND;0RIGHTWARDS~;0LEFTWARDS ARROW FROM BAR TO BLACK DIAMOND",
     "0RIGHTWARDS~;0NORTH WEST AND SOUTH EAST ARROW;1EAST AND SOUTH WEST~;1WEST ARROW WITH HOOK;1EAST~;0SOUTH~",
     "1WEST~;0NORTH WEST ARROW AND NORTH EAST ARROW;1EAST ARROW AND SOUTH~;0SOUTH EAST ARROW AND SOUTH WEST~",
     "1WEST ARROW AND NORTH~;0RISING DIAGONAL CROSSING FALLING DIAGONAL;0FALLING DIAGONAL CROSSING RISING~",
     "0SOUTH EAST ARROW CROSSING NORTH EAST ARROW;0NORTH EAST ARROW CROSSING SOUTH~",
     "0FALLING DIAGONAL CROSSING NORTH EAST ARROW;0RISING DIAGONAL CROSSING SOUTH~",
     "0NORTH EAST ARROW CROSSING NORTH WEST ARROW;1WEST ARROW CROSSING NORTH EAST~",
     "0WAVE ARROW POINTING DIRECTLY RIGHT;0ARROW POINTING RIGHTWARDS THEN CURVING UPWARDS;5DOWNWARDS",
     "2DOWNWARDS THEN CURVING LEFTWARDS;5RIGHTWARDS;0RIGHT-SIDE ARC CLOCKWISE ARROW;0LEFT-SIDE ARC ANTICLOCKWISE~",
     "0TOP~;0BOTTOM~;0TOP ARC CLOCKWISE ARROW WITH MINUS;2ANTICLOCKWISE ARROW WITH PLUS",
     "0LOWER RIGHT SEMICIRCULAR CLOCKWISE ARROW;1LEFT SEMICIRCULAR ANTICLOCKWISE~",
     "0ANTICLOCKWISE CLOSED CIRCLE ARROW;0CLOCKWISE~;0RIGHTWARDS ARROW ABOVE SHORT LEFTWARDS ARROW",
     "0LEFTWARDS ARROW ABOVE SHORT RIGHTWARDS~;0SHORT RIGHTWARDS ARROW ABOVE LEFTWARDS~",
     "0RIGHTWARDS ARROW WITH PLUS BELOW;0LEFTWARDS~;0RIGHTWARDS ARROW THROUGH X",
     "0LEFT RIGHT ARROW THROUGH SMALL CIRCLE;0UPWARDS TWO-HEADED ARROW FROM~;0LEFT BARB UP RIGHT BARB DOWN HARPOON",
     "2DOWN RIGHT BARB UP~;0UP BARB RIGHT DOWN BARB LEFT~;2LEFT DOWN BARB RIGHT~;0LEFT BARB UP RIGHT BARB UP~",
     "0UP BARB RIGHT DOWN BARB RIGHT~;0LEFT BARB DOWN RIGHT BARB DOWN~;0UP BARB LEFT DOWN BARB LEFT~",
     "0LEFTWARDS HARPOON WITH BARB UP TO BAR;0RIGHTWARDS~;0UPWARDS HARPOON WITH BARB RIGHT~;0DOWNWARDS~",
     "0LEFTWARDS HARPOON WITH BARB DOWN~;0RIGHTWARDS~;0UPWARDS HARPOON WITH BARB LEFT~;0DOWNWARDS~",
     "0LEFTWARDS HARPOON WITH BARB UP FROM~;0RIGHTWARDS~;0UPWARDS HARPOON WITH BARB RIGHT~;0DOWNWARDS~",
     "0LEFTWARDS HARPOON WITH BARB DOWN~;0RIGHTWARDS~;0UPWARDS HARPOON WITH BARB LEFT~;0DOWNWARDS~",
     "0LEFTWARDS HARPOON WITH BARB UP ABOVE LEFTWARDS HARPOON WITH BARB DOWN",
     "0UPWARDS HARPOON WITH BARB LEFT BESIDE UPWARDS HARPOON WITH BARB RIGHT",
     "0RIGHTWARDS HARPOON WITH BARB UP ABOVE RIGHTWARDS HARPOON WITH BARB DOWN",
     "0DOWNWARDS HARPOON WITH BARB LEFT BESIDE DOWNWARDS HARPOON WITH BARB RIGHT",
     "0LEFTWARDS HARPOON WITH BARB UP ABOVE RIGHTWARDS HARPOON WITH BARB UP",
     "4DOWN ABOVE RIGHTWARDS HARPOON WITH BARB DOWN",
     "0RIGHTWARDS HARPOON WITH BARB UP ABOVE LEFTWARDS HARPOON WITH BARB UP",
     "4DOWN ABOVE LEFTWARDS HARPOON WITH BARB DOWN;0LEFTWARDS HARPOON WITH BARB UP ABOVE LONG DASH;4DOWN BELOW~",
     "0RIGHTWARDS HARPOON WITH BARB UP ABOVE~;4DOWN BELOW~",
     "0UPWARDS HARPOON WITH BARB LEFT BESIDE DOWNWARDS HARPOON WITH BARB RIGHT",
     "0DOWNWARDS HARPOON WITH BARB LEFT BESIDE UPWARDS~;0RIGHT DOUBLE ARROW WITH ROUNDED HEAD",
     "0EQUALS SIGN ABOVE RIGHTWARDS ARROW;0TILDE OPERATOR~;0LEFTWARDS ARROW ABOVE TILDE OPERATOR;0RIGHTWARDS~",
     "3ALMOST EQUAL TO;0LESS-THAN ABOVE LEFTWARDS ARROW;0LEFTWARDS ARROW THROUGH LESS-THAN",
     "0GREATER-THAN ABOVE RIGHTWARDS ARROW;0SUBSET~;0LEFTWARDS ARROW THROUGH SUBSET;0SUPERSET ABOVE LEFTWARDS ARROW",
     "0LEFT FISH TAIL;0RIGHT~;0UP~;0DOWN~;0TRIPLE VERTICAL BAR DELIMITER;0Z NOTATION SPOT;2TYPE COLON",
     "0LEFT WHITE CURLY BRACKET;0RIGHT~;0LEFT WHITE PARENTHESIS;0RIGHT~;0Z NOTATION LEFT IMAGE BRACKET;2RIGHT~",
     "2LEFT BINDING~;2RIGHT~;0LEFT SQUARE BRACKET WITH UNDERBAR;0RIGHT~",
     "0LEFT SQUARE BRACKET WITH TICK IN TOP CORNER;0RIGHT SQUARE BRACKET WITH TICK IN BOTTOM~;0LEFT~",
     "0RIGHT SQUARE BRACKET WITH TICK IN TOP~;0LEFT ANGLE BRACKET WITH DOT;0RIGHT~;0LEFT ARC LESS-THAN BRACKET",
     "0RIGHT ARC GREATER-THAN~;0DOUBLE LEFT ARC GREATER-THAN BRACKET;1RIGHT ARC LESS-THAN~",
     "0LEFT BLACK TORTOISE SHELL~;0RIGHT~;0DOTTED FENCE;0VERTICAL ZIGZAG LINE;0MEASURED ANGLE OPENING LEFT",
     "0RIGHT ANGLE VARIANT WITH SQUARE;0MEASURED RIGHT ANGLE WITH DOT;0ANGLE WITH S INSIDE;0ACUTE ANGLE",
     "0SPHERICAL ANGLE OPENING LEFT;3UP;0TURNED ANGLE;0REVERSED~;0ANGLE WITH UNDERBAR;0REVERSED ANGLE WITH UNDERBAR",
     "0OBLIQUE ANGLE OPENING UP;3DOWN;0MEASURED ANGLE WITH OPEN ARM ENDING IN ARROW POINTING UP AND RIGHT",
     "9UP AND LEFT;9DOWN AND RIGHT;9DOWN AND LEFT;9RIGHT AND UP;9LEFT~;9RIGHT AND DOWN;9LEFT~;0REVERSED EMPTY SET",
     "0EMPTY SET WITH OVERBAR;3SMALL CIRCLE ABOVE;3RIGHT ARROW~;3LEFT~;0CIRCLE WITH HORIZONTAL BAR",
     "0CIRCLED VERTICAL BAR;1PARALLEL;1REVERSE SOLIDUS;1PERPENDICULAR",
     "0CIRCLE DIVIDED BY HORIZONTAL BAR AND TOP HALF DIVIDED BY VERTICAL BAR;1WITH SUPERIMPOSED X",
     "0CIRCLED ANTICLOCKWISE-ROTATED DIVISION SIGN;0UP ARROW THROUGH CIRCLE;0CIRCLED WHITE BULLET;1BULLET",
     "1LESS-THAN;1GREATER-THAN;0CIRCLE WITH SMALL CIRCLE TO THE RIGHT;2TWO HORIZONTAL STROKES TO THE RIGHT",
     "0SQUARED RISING DIAGONAL SLASH;1FALLING~;1ASTERISK;1SMALL CIRCLE;1SQUARE;0TWO JOINED SQUARES",
     "0TRIANGLE WITH DOT ABOVE;2UNDERBAR;0S IN TRIANGLE;0TRIANGLE WITH SERIFS AT BOTTOM",
     "0RIGHT TRIANGLE ABOVE LEFT TRIANGLE;0LEFT TRIANGLE BESIDE VERTICAL BAR;0VERTICAL BAR BESIDE RIGHT TRIANGLE",
     "0BOWTIE WITH LEFT HALF BLACK;2RIGHT~;0BLACK BOWTIE;0TIMES WITH LEFT HALF BLACK;2RIGHT~;0WHITE HOURGLASS",
     "0BLACK~;0LEFT WIGGLY FENCE;0RIGHT~;0LEFT DOUBLE WIGGLY FENCE;0RIGHT~;0INCOMPLETE INFINITY;0TIE OVER INFINITY",
     "0INFINITY NEGATED WITH VERTICAL BAR;0DOUBLE-ENDED MULTIMAP;0SQUARE WITH CONTOURED OUTLINE;0INCREASES AS",
     "0SHUFFLE PRODUCT;0EQUALS SIGN AND SLANTED PARALLEL;5WITH TILDE ABOVE;0IDENTICAL TO AND SLANTED PARALLEL",
     "0GLEICH STARK;0THERMODYNAMIC;0DOWN-POINTING TRIANGLE WITH LEFT HALF BLACK;3RIGHT~",
     "0BLACK DIAMOND WITH DOWN ARROW;1LOZENGE;0WHITE CIRCLE WITH DOWN ARROW;0BLACK~;0ERROR-BARRED WHITE SQUARE",
     "1BLACK~;1WHITE DIAMOND;1BLACK~;1WHITE CIRCLE;1BLACK~;0RULE-DELAYED;0REVERSE SOLIDUS OPERATOR",
     "0SOLIDUS WITH OVERBAR;0REVERSE SOLIDUS WITH HORIZONTAL STROKE;0BIG SOLIDUS;1REVERSE SOLIDUS;0DOUBLE PLUS",
     "0TRIPLE~;0LEFT-POINTING CURVED ANGLE BRACKET;0RIGHT-POINTING~;0TINY;0MINY;0N-ARY CIRCLED DOT OPERATOR;2PLUS~",
     "2TIMES~;1UNION OPERATOR WITH DOT;4PLUS;1SQUARE INTERSECTION OPERATOR;2UNION~;0TWO LOGICAL AND~;2OR~",
     "0N-ARY TIMES OPERATOR;0MODULO TWO SUM;0SUMMATION WITH INTEGRAL;0QUADRUPLE INTEGRAL OPERATOR",
     "0FINITE PART INTEGRAL;0INTEGRAL WITH DOUBLE STROKE;1AVERAGE WITH SLASH;0CIRCULATION FUNCTION",
     "0ANTICLOCKWISE INTEGRATION;0LINE INTEGRATION WITH RECTANGULAR PATH AROUND POLE;3SEMICIRCULAR~",
     "2NOT INCLUDING THE POLE;0INTEGRAL AROUND A POINT OPERATOR;0QUATERNION INTEGRAL OPERATOR",
     "0INTEGRAL WITH LEFTWARDS ARROW WITH HOOK;2TIMES SIGN;2INTERSECTION;2UNION;2OVERBAR;2UNDERBAR;0JOIN",
     "0LARGE LEFT TRIANGLE OPERATOR;0Z NOTATION SCHEMA COMPOSITION;3PIPING;3PROJECTION",
     "0PLUS SIGN WITH SMALL CIRCLE ABOVE;3CIRCUMFLEX ACCENT~;3TILDE ABOVE;3DOT BELOW;3TILDE~;3SUBSCRIPT TWO",
     "3BLACK TRIANGLE;0MINUS SIGN WITH COMMA ABOVE;3DOT BELOW;3FALLING DOTS;3RISING~;0PLUS SIGN IN LEFT HALF CIRCLE",
     "3RIGHT~;0VECTOR OR CROSS PRODUCT;0MULTIPLICATION SIGN WITH DOT ABOVE;3UNDERBAR",
     "0SEMIDIRECT PRODUCT WITH BOTTOM CLOSED;0SMASH PRODUCT;0MULTIPLICATION SIGN IN LEFT HALF CIRCLE;3RIGHT~",
     "0CIRCLED MULTIPLICATION SIGN WITH CIRCUMFLEX ACCENT;0MULTIPLICATION SIGN IN DOUBLE CIRCLE",
     "0CIRCLED DIVISION SIGN;0PLUS SIGN IN TRIANGLE;0MINUS~;0MULTIPLICATION~;0INTERIOR PRODUCT",
     "0RIGHTHAND INTERIOR PRODUCT;0Z NOTATION RELATIONAL COMPOSITION;0AMALGAMATION OR COPRODUCT",
     "0INTERSECTION WITH DOT;0UNION WITH MINUS SIGN;2OVERBAR;0INTERSECTION~;2LOGICAL AND;0UNION WITH LOGICAL OR",
     "1ABOVE INTERSECTION;0INTERSECTION ABOVE UNION;0UNION ABOVE BAR ABOVE INTERSECTION",
     "0INTERSECTION ABOVE BAR ABOVE UNION;0UNION BESIDE AND JOINED WITH UNION",
     "0INTERSECTION BESIDE AND JOINED WITH INTERSECTION;0CLOSED UNION WITH SERIFS;1INTERSECTION~",
     "0DOUBLE SQUARE INTERSECTION;2UNION;0CLOSED UNION WITH SERIFS AND SMASH PRODUCT;0LOGICAL AND WITH DOT ABOVE",
     "1OR~;0DOUBLE LOGICAL AND;2OR;0TWO INTERSECTING LOGICAL AND;3OR;0SLOPING LARGE OR;2AND",
     "0LOGICAL OR OVERLAPPING LOGICAL AND;1AND WITH MIDDLE STEM;1OR~;1AND WITH HORIZONTAL DASH;1OR~",
     "1AND WITH DOUBLE OVERBAR;3UNDERBAR;3DOUBLE UNDERBAR;0SMALL VEE WITH UNDERBAR;0LOGICAL OR WITH DOUBLE OVERBAR",
     "4UNDERBAR;0Z NOTATION DOMAIN ANTIRESTRICTION;2RANGE~;0EQUALS SIGN WITH DOT BELOW;0IDENTICAL WITH DOT ABOVE",
     "0TRIPLE HORIZONTAL BAR WITH DOUBLE VERTICAL STROKE;4TRIPLE~;0TILDE OPERATOR WITH DOT ABOVE;3RISING DOTS",
     "0SIMILAR MINUS SIMILAR;0CONGRUENT WITH DOT ABOVE;0EQUALS WITH ASTERISK",
     "0ALMOST EQUAL TO WITH CIRCUMFLEX ACCENT;0APPROXIMATELY EQUAL OR EQUAL TO;0EQUALS SIGN ABOVE PLUS SIGN",
     "0PLUS SIGN ABOVE EQUALS~;0EQUALS SIGN ABOVE TILDE OPERATOR;0DOUBLE COLON EQUAL;0TWO CONSECUTIVE EQUALS SIGNS",
     "0THREE~;0EQUALS SIGN WITH TWO DOTS ABOVE AND TWO DOTS BELOW;0EQUIVALENT WITH FOUR DOTS ABOVE",
     "0LESS-THAN WITH CIRCLE INSIDE;0GREATER-THAN~;0LESS-THAN WITH QUESTION MARK ABOVE;0GREATER-THAN~",
     "0LESS-THAN OR SLANTED EQUAL TO;0GREATER-THAN~;0LESS-THAN OR SLANTED EQUAL TO WITH DOT INSIDE;0GREATER-THAN~",
     "0LESS-THAN OR SLANTED EQUAL TO WITH DOT ABOVE;0GREATER-THAN~",
     "0LESS-THAN OR SLANTED EQUAL TO WITH DOT ABOVE RIGHT;0GREATER-THAN OR SLANTED EQUAL TO WITH DOT ABOVE LEFT",
     "0LESS-THAN OR APPROXIMATE;0GREATER-THAN~;0LESS-THAN AND SINGLE-LINE NOT EQUAL TO;0GREATER-THAN~",
     "0LESS-THAN AND NOT APPROXIMATE;0GREATER-THAN~;0LESS-THAN ABOVE DOUBLE-LINE EQUAL ABOVE GREATER-THAN",
     "0GREATER-THAN ABOVE DOUBLE-LINE EQUAL ABOVE LESS-THAN;0LESS-THAN ABOVE SIMILAR OR EQUAL;0GREATER-THAN~",
     "0LESS-THAN ABOVE SIMILAR ABOVE GREATER-THAN;0GREATER-THAN ABOVE SIMILAR ABOVE LESS-THAN",
     "0LESS-THAN ABOVE GREATER-THAN ABOVE DOUBLE-LINE EQUAL;0GREATER-THAN ABOVE LESS-THAN~",
     "0LESS-THAN ABOVE SLANTED EQUAL ABOVE GREATER-THAN ABOVE SLANTED EQUAL",
     "0GREATER-THAN ABOVE SLANTED EQUAL ABOVE LESS-THAN~;0SLANTED EQUAL TO OR LESS-THAN;4GREATER-THAN",
     "4LESS-THAN WITH DOT INSIDE;4GREATER-THAN~;0DOUBLE-LINE EQUAL TO OR LESS-THAN;4GREATER-THAN",
     "1SLANTED EQUAL TO OR LESS-THAN;5GREATER-THAN;0SIMILAR OR LESS-THAN;2GREATER-THAN",
     "1ABOVE LESS-THAN ABOVE EQUALS SIGN;2GREATER-THAN~;0DOUBLE NESTED LESS-THAN;2GREATER-THAN",
     "2LESS-THAN WITH UNDERBAR;0GREATER-THAN OVERLAPPING LESS-THAN;1BESIDE~;0LESS-THAN CLOSED BY CURVE",
     "0GREATER-THAN~;0LESS-THAN CLOSED BY CURVE ABOVE SLANTED EQUAL;0GREATER-THAN~;0SMALLER THAN;0LARGER~",
     "0SMALLER THAN OR EQUAL TO;0LARGER~;0EQUALS SIGN WITH BUMPY ABOVE;0PRECEDES ABOVE SINGLE-LINE EQUALS SIGN",
     "0SUCCEEDS~;0PRECEDES ABOVE SINGLE-LINE NOT EQUAL TO;0SUCCEEDS~;0PRECEDES ABOVE EQUALS SIGN;0SUCCEEDS~",
     "0PRECEDES ABOVE NOT EQUAL TO;0SUCCEEDS~;0PRECEDES ABOVE ALMOST~;0SUCCEEDS~",
     "0PRECEDES ABOVE NOT ALMOST EQUAL TO;0SUCCEEDS~;0DOUBLE PRECEDES;1SUCCEEDS;0SUBSET WITH DOT;0SUPERSET~",
     "0SUBSET WITH PLUS SIGN BELOW;0SUPERSET~;0SUBSET WITH MULTIPLICATION~;0SUPERSET~",
     "0SUBSET OF OR EQUAL TO WITH DOT ABOVE;0SUPERSET~;0SUBSET OF ABOVE EQUALS SIGN;0SUPERSET~",
     "0SUBSET OF ABOVE TILDE OPERATOR;0SUPERSET~;0SUBSET OF ABOVE ALMOST EQUAL TO;0SUPERSET~;0SUBSET OF ABOVE NOT~",
     "0SUPERSET~;0SQUARE LEFT OPEN BOX OPERATOR;1RIGHT~;0CLOSED SUBSET;1SUPERSET;1SUBSET OR EQUAL TO;1SUPERSET~",
     "0SUBSET ABOVE SUPERSET;0SUPERSET ABOVE SUBSET;0SUBSET~;0SUPERSET ABOVE SUPERSET;1BESIDE SUBSET",
     "2AND JOINED BY DASH WITH SUBSET;0ELEMENT OF OPENING DOWNWARDS;0PITCHFORK WITH TEE TOP",
     "0TRANSVERSAL INTERSECTION;0FORKING;0NONFORKING;0SHORT LEFT TACK;1DOWN~;1UP~;0PERPENDICULAR WITH S",
     "0VERTICAL BAR TRIPLE RIGHT TURNSTILE;0DOUBLE VERTICAL BAR LEFT~;0VERTICAL BAR DOUBLE~",
     "0DOUBLE VERTICAL BAR DOUBLE LEFT TURNSTILE;0LONG DASH FROM LEFT MEMBER OF DOUBLE VERTICAL",
     "0SHORT DOWN TACK WITH OVERBAR;1UP TACK WITH UNDERBAR;3ABOVE SHORT DOWN TACK;0DOUBLE DOWN TACK;1UP~",
     "1STROKE NOT SIGN;0REVERSED DOUBLE STROKE NOT SIGN;0DOES NOT DIVIDE WITH REVERSED NEGATION SLASH",
     "0VERTICAL LINE WITH CIRCLE ABOVE;4BELOW;0DOWN TACK~;0PARALLEL WITH HORIZONTAL STROKE;2TILDE OPERATOR",
     "0TRIPLE VERTICAL BAR BINARY RELATION;3WITH HORIZONTAL STROKE;1COLON OPERATOR;1NESTED LESS-THAN;2GREATER-THAN",
     "0DOUBLE-LINE SLANTED LESS-THAN OR EQUAL TO;2GREATER-THAN~;0TRIPLE SOLIDUS BINARY RELATION",
     "0LARGE TRIPLE VERTICAL BAR OPERATOR;0DOUBLE SOLIDUS OPERATOR;0WHITE VERTICAL BAR;0N-ARY WHITE VERTICAL BAR",
     "0NORTH EAST WHITE ARROW;1WEST~;0SOUTH EAST~;1WEST~;0LEFT RIGHT~;0LEFTWARDS BLACK ARROW;0UPWARDS~;0DOWNWARDS~",
     "0NORTH EAST BLACK ARROW;1WEST~;0SOUTH EAST~;1WEST~;0LEFT RIGHT~;0UP DOWN~",
     "0RIGHTWARDS ARROW WITH TIP DOWNWARDS;4UPWARDS;0LEFTWARDS ARROW WITH TIP DOWNWARDS;4UPWARDS",
     "0SQUARE WITH TOP HALF BLACK;2BOTTOM~;2UPPER RIGHT DIAGONAL HALF BLACK;2LOWER LEFT~",
     "0DIAMOND WITH LEFT HALF BLACK;2RIGHT~;2TOP~;2BOTTOM~;0DOTTED SQUARE;0BLACK LARGE SQUARE;0WHITE~",
     "0BLACK VERY SMALL SQUARE;0WHITE~;0BLACK PENTAGON;0WHITE~;1HEXAGON;0BLACK~;0HORIZONTAL BLACK HEXAGON",
     "0BLACK LARGE CIRCLE;1MEDIUM DIAMOND;0WHITE~;0BLACK MEDIUM LOZENGE;0WHITE~;0BLACK SMALL DIAMOND;2LOZENGE",
     "0WHITE~;0BLACK HORIZONTAL ELLIPSE;0WHITE~;0BLACK VERTICAL~;0WHITE~;0LEFT ARROW WITH SMALL CIRCLE",
     "0THREE LEFTWARDS ARROWS;0LEFT ARROW WITH CIRCLED PLUS;0LONG LEFTWARDS SQUIGGLE ARROW",
     "0LEFTWARDS TWO-HEADED ARROW WITH VERTICAL STROKE;4DOUBLE VERTICAL STROKE;3FROM BAR;2TRIPLE DASH ARROW",
     "1ARROW WITH DOTTED STEM;3TAIL WITH VERTICAL STROKE;5DOUBLE VERTICAL STROKE;1TWO-HEADED ARROW WITH TAIL",
     "5WITH VERTICAL STROKE;6DOUBLE VERTICAL STROKE;1ARROW THROUGH X;0WAVE ARROW POINTING DIRECTLY LEFT",
     "0EQUALS SIGN ABOVE LEFTWARDS ARROW;0REVERSE TILDE OPERATOR ABOVE LEFTWARDS ARROW",
     "0LEFTWARDS ARROW ABOVE REVERSE ALMOST EQUAL TO;0RIGHTWARDS ARROW THROUGH GREATER-THAN;3SUPERSET",
     "0LEFTWARDS QUADRUPLE ARROW;0RIGHTWARDS~;0REVERSE TILDE OPERATOR ABOVE RIGHTWARDS ARROW",
     "0RIGHTWARDS ARROW ABOVE REVERSE ALMOST EQUAL TO;0TILDE OPERATOR ABOVE LEFTWARDS ARROW",
     "0LEFTWARDS ARROW ABOVE ALMOST EQUAL TO;3REVERSE TILDE OPERATOR;0RIGHTWARDS~",
     "0DOWNWARDS TRIANGLE-HEADED ZIGZAG ARROW;0SHORT SLANTED NORTH~;1BACKSLANTED SOUTH~;0WHITE MEDIUM STAR",
     "0BLACK SMALL~;0WHITE~;0BLACK RIGHT-POINTING PENTAGON;0WHITE~;0HEAVY LARGE CIRCLE;1OVAL WITH OVAL INSIDE",
     "1CIRCLE WITH CIRCLE~;1CIRCLE;1CIRCLED SALTIRE;0SLANTED NORTH ARROW WITH HOOKED HEAD",
     "0BACKSLANTED SOUTH ARROW WITH HOOKED TAIL;0SLANTED NORTH ARROW WITH HORIZONTAL~;0BACKSLANTED SOUTH~",
     "0BENT ARROW POINTING DOWNWARDS THEN NORTH EAST;0SHORT BENT ARROW POINTING DOWNWARDS THEN NORTH EAST",
     "0LEFTWARDS TRIANGLE-HEADED ARROW;0UPWARDS~;0RIGHTWARDS~;0DOWNWARDS~;0LEFT RIGHT TRIANGLE-HEADED ARROW",
     "0UP DOWN~;0NORTH WEST~;1EAST~;0SOUTH~;1WEST~;0LEFTWARDS TRIANGLE-HEADED DASHED~;0UPWARDS~;0RIGHTWARDS~",
     "0DOWNWARDS~;0CLOCKWISE TRIANGLE-HEADED OPEN CIRCLE ARROW;0ANTICLOCKWISE~",
     "0LEFTWARDS TRIANGLE-HEADED ARROW TO BAR;0UPWARDS~;0RIGHTWARDS~;0DOWNWARDS~"]⟩,
   ⟨0x2B76, ["0NORTH WEST TRIANGLE-HEADED ARROW TO BAR;1EAST~;0SOUTH~;1WEST~",
     "0LEFTWARDS TRIANGLE-HEADED ARROW WITH DOUBLE HORIZONTAL STROKE;0UPWARDS~;0RIGHTWARDS~;0DOWNWARDS~",
     "0HORIZONTAL TAB KEY;0VERTICAL~;0LEFTWARDS TRIANGLE-HEADED ARROW OVER RIGHTWARDS TRIANGLE-HEADED ARROW",
     "0UPWARDS TRIANGLE-HEADED ARROW LEFTWARDS OF DOWNWARDS TRIANGLE-HEADED ARROW",
     "0RIGHTWARDS TRIANGLE-HEADED ARROW OVER LEFTWARDS TRIANGLE-HEADED ARROW",
     "0DOWNWARDS TRIANGLE-HEADED ARROW LEFTWARDS OF UPWARDS TRIANGLE-HEADED ARROW",
     "0LEFTWARDS TRIANGLE-HEADED PAIRED ARROWS;0UPWARDS~;0RIGHTWARDS~;0DOWNWARDS~",
     "0LEFTWARDS BLACK CIRCLED WHITE ARROW;0UPWARDS~;0RIGHTWARDS~;0DOWNWARDS~",
     "0ANTICLOCKWISE TRIANGLE-HEADED RIGHT U-SHAPED~;2BOTTOM~;2LEFT~;2TOP~;0RETURN LEFT;1RIGHT;0NEWLINE LEFT;1RIGHT",
     "0FOUR CORNER ARROWS CIRCLING ANTICLOCKWISE;0RIGHTWARDS BLACK ARROW"]⟩,
   ⟨0x2B97, ["0SYMBOL FOR TYPE A ELECTRONICS;0THREE-D TOP-LIGHTED LEFTWARDS EQUILATERAL ARROWHEAD",
     "1RIGHT-LIGHTED UPWARDS~;1TOP-LIGHTED RIGHTWARDS~;1LEFT-LIGHTED DOWNWARDS~",
     "0BLACK LEFTWARDS EQUILATERAL ARROWHEAD;1UPWARDS~;1RIGHTWARDS~;1DOWNWARDS~",
     "0DOWNWARDS TRIANGLE-HEADED ARROW WITH LONG TIP LEFTWARDS;6RIGHTWARDS",
     "0UPWARDS TRIANGLE-HEADED ARROW WITH LONG TIP LEFTWARDS;6RIGHTWARDS",
     "0LEFTWARDS TRIANGLE-HEADED ARROW WITH LONG TIP UPWARDS;0RIGHTWARDS~",
     "0LEFTWARDS TRIANGLE-HEADED ARROW WITH LONG TIP DOWNWARDS;0RIGHTWARDS~",
     "0BLACK CURVED DOWNWARDS AND LEFTWARDS ARROW;4RIGHTWARDS~;2UPWARDS AND LEFTWARDS~;4RIGHTWARDS~",
     "2LEFTWARDS AND UPWARDS~;2RIGHTWARDS~;2LEFTWARDS AND DOWNWARDS~;2RIGHTWARDS~;0RIBBON ARROW DOWN LEFT;3RIGHT",
     "2UP LEFT;3RIGHT;2LEFT UP;2RIGHT~;2LEFT DOWN;2RIGHT~;0UPWARDS WHITE ARROW FROM BAR WITH HORIZONTAL BAR",
     "0UP ARROWHEAD IN A RECTANGLE BOX;0OVERLAPPING WHITE SQUARES;2AND BLACK SQUARES;1BLACK SQUARES",
     "0BALLOT BOX WITH LIGHT X;0CIRCLED X;1BOLD X;0BLACK SQUARE CENTRED;1DIAMOND~;0TURNED BLACK PENTAGON",
     "0HORIZONTAL BLACK OCTAGON;0BLACK OCTAGON;1MEDIUM UP-POINTING TRIANGLE CENTRED;2DOWN-POINTING~;2LEFT-POINTING~",
     "2RIGHT-POINTING~;0NEPTUNE FORM TWO;0TOP HALF BLACK CIRCLE;0BOTTOM~;0LIGHT FOUR POINTED BLACK CUSP",
     "0ROTATED LIGHT FOUR POINTED BLACK CUSP;0WHITE FOUR POINTED CUSP;0ROTATED WHITE FOUR POINTED CUSP",
     "0SQUARE POSITION INDICATOR;0UNCERTAINTY SIGN;0GROUP MARK;0PLUTO FORM TWO;2THREE;2FOUR;2FIVE;0TRANSPLUTO",
     "0PROSERPINA;0ASTRAEA;0HYGIEA;0PHOLUS;0NESSUS;0WHITE MOON SELENA;0BLACK DIAMOND ON CROSS;0TRUE LIGHT MOON ARTA",
     "0CUPIDO;0HADES;0ZEUS;0KRONOS;0APOLLON;0ADMETOS;0VULCANUS;0POSEIDON;0LEFT HALF BLACK STAR;0RIGHT~",
     "0STAR WITH LEFT HALF BLACK;2RIGHT~;0LEFTWARDS TWO-HEADED ARROW WITH TRIANGLE ARROWHEADS;0UPWARDS~",
     "0RIGHTWARDS~;0DOWNWARDS~;0ERIS FORM ONE;2TWO;0SEDNA;0RUSSIAN ASTROLOGICAL SYMBOL VIGINTILE;3NOVILE;3QUINTILE",
     "3BINOVILE;3SENTAGON;3TREDECILE;0EQUALS SIGN WITH INFINITY BELOW;0UNITED SYMBOL;0SEPARATED~;0DOUBLED~;0PASSED~",
     "0REVERSED RIGHT ANGLE;0HELLSCHREIBER PAUSE SYMBOL"]⟩]

end ReportCard.Text
