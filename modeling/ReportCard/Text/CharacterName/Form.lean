import ReportCard.Text.CharacterName.Basic

/-!
# Names of characters: Form

The names of characters in the form of others, U+F900 to U+FFFF.
-/

namespace ReportCard.Text

/-- The names of characters in the form of others. -/
def formNames : List NameRun :=
  [⟨0xFB00, ["0LATIN SMALL LIGATURE FF;3FI;3FL;3FFI;3FFL;3LONG S T;3ST"]⟩,
   ⟨0xFB13, ["0ARMENIAN SMALL LIGATURE MEN NOW;4ECH;4INI;3VEW NOW;3MEN XEH"]⟩,
   ⟨0xFB1D, ["0HEBREW LETTER YOD WITH HIRIQ;1POINT JUDEO-SPANISH VARIKA;1LIGATURE YIDDISH YOD YOD PATAH",
     "1LETTER ALTERNATIVE AYIN;2WIDE ALEF;3DALET;3HE;3KAF;3LAMED;3FINAL MEM;3RESH;3TAV;2ALTERNATIVE PLUS SIGN",
     "2SHIN WITH SHIN DOT;4SIN~;4DAGESH AND SHIN DOT;6SIN~;2ALEF WITH PATAH;4QAMATS;4MAPIQ;2BET WITH DAGESH;2GIMEL~",
     "2DALET~;2HE WITH MAPIQ;2VAV WITH DAGESH;2ZAYIN~"]⟩,
   ⟨0xFB38, ["0HEBREW LETTER TET WITH DAGESH;2YOD~;2FINAL KAF WITH DAGESH;2KAF WITH DAGESH;2LAMED~"]⟩,
   ⟨0xFB3E, ["0HEBREW LETTER MEM WITH DAGESH"]⟩,
   ⟨0xFB40, ["0HEBREW LETTER NUN WITH DAGESH;2SAMEKH~"]⟩,
   ⟨0xFB43, ["0HEBREW LETTER FINAL PE WITH DAGESH;2PE WITH DAGESH"]⟩,
   ⟨0xFB46, ["0HEBREW LETTER TSADI WITH DAGESH;2QOF~;2RESH~;2SHIN~;2TAV~;2VAV WITH HOLAM;2BET WITH RAFE;2KAF~;2PE~",
     "1LIGATURE ALEF LAMED;0ARABIC LETTER ALEF WASLA ISOLATED FORM;4FINAL~;2BEEH ISOLATED FORM;3FINAL~;3INITIAL~",
     "3MEDIAL~;2PEH ISOLATED~;3FINAL~;3INITIAL~;3MEDIAL~;2BEHEH ISOLATED~;3FINAL~;3INITIAL~;3MEDIAL~",
     "2TTEHEH ISOLATED~;3FINAL~;3INITIAL~;3MEDIAL~;2TEHEH ISOLATED~;3FINAL~;3INITIAL~;3MEDIAL~;2TTEH ISOLATED~",
     "3FINAL~;3INITIAL~;3MEDIAL~;2VEH ISOLATED~;3FINAL~;3INITIAL~;3MEDIAL~;2PEHEH ISOLATED~;3FINAL~;3INITIAL~",
     "3MEDIAL~;2DYEH ISOLATED~;3FINAL~;3INITIAL~;3MEDIAL~;2NYEH ISOLATED~;3FINAL~;3INITIAL~;3MEDIAL~",
     "2TCHEH ISOLATED~;3FINAL~;3INITIAL~;3MEDIAL~;2TCHEHEH ISOLATED~;3FINAL~;3INITIAL~;3MEDIAL~;2DDAHAL ISOLATED~",
     "3FINAL~;2DAHAL ISOLATED~;3FINAL~;2DUL ISOLATED~;3FINAL~;2DDAL ISOLATED~;3FINAL~;2JEH ISOLATED~;3FINAL~",
     "2RREH ISOLATED~;3FINAL~;2KEHEH ISOLATED~;3FINAL~;3INITIAL~;3MEDIAL~;2GAF ISOLATED~;3FINAL~;3INITIAL~;3MEDIAL~",
     "2GUEH ISOLATED~;3FINAL~;3INITIAL~;3MEDIAL~;2NGOEH ISOLATED~;3FINAL~;3INITIAL~;3MEDIAL~",
     "2NOON GHUNNA ISOLATED FORM;4FINAL~;2RNOON ISOLATED FORM;3FINAL~;3INITIAL~;3MEDIAL~",
     "2HEH WITH YEH ABOVE ISOLATED FORM;6FINAL~;3GOAL ISOLATED FORM;4FINAL~;4INITIAL~;4MEDIAL~",
     "3DOACHASHMEE ISOLATED~;4FINAL~;4INITIAL~;4MEDIAL~;2YEH BARREE ISOLATED~;4FINAL~",
     "4WITH HAMZA ABOVE ISOLATED FORM;7FINAL~;1SYMBOL DOT ABOVE;3BELOW;2TWO DOTS ABOVE;4BELOW;2THREE DOTS ABOVE",
     "4BELOW;4POINTING DOWNWARDS ABOVE;6BELOW;2FOUR DOTS ABOVE;4BELOW;2DOUBLE VERTICAL BAR BELOW",
     "2TWO DOTS VERTICALLY ABOVE;5BELOW;2RING;2SMALL TAH ABOVE;4BELOW;2WASLA ABOVE"]⟩,
   ⟨0xFBD3, ["0ARABIC LETTER NG ISOLATED FORM;3FINAL~;3INITIAL~;3MEDIAL~;2U ISOLATED~;3FINAL~;2OE ISOLATED~;3FINAL~",
     "2YU ISOLATED~;3FINAL~;2U WITH HAMZA ABOVE ISOLATED FORM;2VE ISOLATED FORM;3FINAL~;2KIRGHIZ OE ISOLATED FORM",
     "4FINAL~;3YU ISOLATED~;4FINAL~;2E ISOLATED FORM;3FINAL~;3INITIAL~;3MEDIAL~",
     "2UIGHUR KAZAKH KIRGHIZ ALEF MAKSURA INITIAL FORM;7MEDIAL~",
     "1LIGATURE YEH WITH HAMZA ABOVE WITH ALEF ISOLATED FORM;8FINAL~;7AE ISOLATED~;8FINAL~;7WAW ISOLATED~;8FINAL~",
     "7U ISOLATED~;8FINAL~;7OE ISOLATED~;8FINAL~;7YU ISOLATED~;8FINAL~;7E ISOLATED~;8FINAL~;8INITIAL~",
     "2UIGHUR KIRGHIZ YEH WITH HAMZA ABOVE WITH ALEF MAKSURA ISOLATED FORM;9ALEF MAKSURA FINAL~",
     "9ALEF MAKSURA INITIAL~;1LETTER FARSI YEH ISOLATED FORM;4FINAL~;4INITIAL~;4MEDIAL~",
     "1LIGATURE YEH WITH HAMZA ABOVE WITH JEEM ISOLATED FORM;7HAH~;7MEEM~;7ALEF MAKSURA ISOLATED FORM",
     "7YEH ISOLATED FORM;2BEH WITH JEEM ISOLATED FORM;4HAH~;4KHAH~;4MEEM~;4ALEF MAKSURA ISOLATED FORM",
     "4YEH ISOLATED FORM;2TEH WITH JEEM~;4HAH~;4KHAH~;4MEEM~;4ALEF MAKSURA ISOLATED FORM;4YEH ISOLATED FORM",
     "2THEH WITH JEEM~;4MEEM~;4ALEF MAKSURA ISOLATED FORM;4YEH ISOLATED FORM;2JEEM WITH HAH~;4MEEM~;2HAH WITH JEEM~",
     "4MEEM~;2KHAH WITH JEEM~;4HAH~;4MEEM~;2SEEN WITH JEEM~;4HAH~;4KHAH~;4MEEM~;2SAD WITH HAH~;4MEEM~",
     "2DAD WITH JEEM~;4HAH~;4KHAH~;4MEEM~;2TAH WITH HAH~;4MEEM~;2ZAH~;2AIN WITH JEEM~;4MEEM~;2GHAIN WITH JEEM~",
     "4MEEM~;2FEH WITH JEEM~;4HAH~;4KHAH~;4MEEM~;4ALEF MAKSURA ISOLATED FORM;4YEH ISOLATED FORM;2QAF WITH HAH~",
     "4MEEM~;4ALEF MAKSURA ISOLATED FORM;4YEH ISOLATED FORM;2KAF WITH ALEF~;4JEEM~;4HAH~;4KHAH~;4LAM~;4MEEM~",
     "4ALEF MAKSURA ISOLATED FORM;4YEH ISOLATED FORM;2LAM WITH JEEM~;4HAH~;4KHAH~;4MEEM~",
     "4ALEF MAKSURA ISOLATED FORM;4YEH ISOLATED FORM;2MEEM WITH JEEM~;4HAH~;4KHAH~;4MEEM~",
     "4ALEF MAKSURA ISOLATED FORM;4YEH ISOLATED FORM;2NOON WITH JEEM~;4HAH~;4KHAH~;4MEEM~",
     "4ALEF MAKSURA ISOLATED FORM;4YEH ISOLATED FORM;2HEH WITH JEEM~;4MEEM~;4ALEF MAKSURA ISOLATED FORM",
     "4YEH ISOLATED FORM;2YEH WITH JEEM~;4HAH~;4KHAH~;4MEEM~;4ALEF MAKSURA ISOLATED FORM;4YEH ISOLATED FORM",
     "2THAL WITH SUPERSCRIPT ALEF ISOLATED FORM;2REH~;2ALEF MAKSURA WITH SUPERSCRIPT ALEF ISOLATED FORM",
     "2SHADDA WITH DAMMATAN ISOLATED FORM;4KASRATAN~;4FATHA~;4DAMMA~;4KASRA~;4SUPERSCRIPT ALEF ISOLATED FORM",
     "2YEH WITH HAMZA ABOVE WITH REH FINAL FORM;7ZAIN~;7MEEM~;7NOON~;7ALEF MAKSURA FINAL FORM;7YEH FINAL FORM",
     "2BEH WITH REH FINAL FORM;4ZAIN~;4MEEM~;4NOON~;4ALEF MAKSURA FINAL FORM;4YEH FINAL FORM;2TEH WITH REH~;4ZAIN~",
     "4MEEM~;4NOON~;4ALEF MAKSURA FINAL FORM;4YEH FINAL FORM;2THEH WITH REH~;4ZAIN~;4MEEM~;4NOON~",
     "4ALEF MAKSURA FINAL FORM;4YEH FINAL FORM;2FEH WITH ALEF MAKSURA FINAL FORM;4YEH FINAL FORM",
     "2QAF WITH ALEF MAKSURA FINAL FORM;4YEH FINAL FORM;2KAF WITH ALEF~;4LAM~;4MEEM~;4ALEF MAKSURA FINAL FORM",
     "4YEH FINAL FORM;2LAM WITH MEEM~;4ALEF MAKSURA FINAL FORM;4YEH FINAL FORM;2MEEM WITH ALEF~;4MEEM~",
     "2NOON WITH REH~;4ZAIN~;4MEEM~;4NOON~;4ALEF MAKSURA FINAL FORM;4YEH FINAL FORM",
     "2ALEF MAKSURA WITH SUPERSCRIPT ALEF FINAL FORM;2YEH WITH REH FINAL FORM;4ZAIN~;4MEEM~;4NOON~",
     "4ALEF MAKSURA FINAL FORM;4YEH FINAL FORM;4HAMZA ABOVE WITH JEEM INITIAL FORM;7HAH~;7KHAH~;7MEEM~;7HEH~",
     "2BEH WITH JEEM INITIAL FORM;4HAH~;4KHAH~;4MEEM~;4HEH~;2TEH WITH JEEM~;4HAH~;4KHAH~;4MEEM~;4HEH~",
     "2THEH WITH MEEM~;2JEEM WITH HAH~;4MEEM~;2HAH WITH JEEM~;4MEEM~;2KHAH WITH JEEM~;4MEEM~;2SEEN WITH JEEM~;4HAH~",
     "4KHAH~;4MEEM~;2SAD WITH HAH~;4KHAH~;4MEEM~;2DAD WITH JEEM~;4HAH~;4KHAH~;4MEEM~;2TAH WITH HAH~;2ZAH WITH MEEM~",
     "2AIN WITH JEEM~;4MEEM~;2GHAIN WITH JEEM~;4MEEM~;2FEH WITH JEEM~;4HAH~;4KHAH~;4MEEM~;2QAF WITH HAH~;4MEEM~",
     "2KAF WITH JEEM~;4HAH~;4KHAH~;4LAM~;4MEEM~;2LAM WITH JEEM~;4HAH~;4KHAH~;4MEEM~;4HEH~;2MEEM WITH JEEM~;4HAH~",
     "4KHAH~;4MEEM~;2NOON WITH JEEM~;4HAH~;4KHAH~;4MEEM~;4HEH~;2HEH WITH JEEM~;4MEEM~",
     "4SUPERSCRIPT ALEF INITIAL FORM;2YEH WITH JEEM INITIAL FORM;4HAH~;4KHAH~;4MEEM~;4HEH~",
     "4HAMZA ABOVE WITH MEEM MEDIAL FORM;7HEH~;2BEH WITH MEEM MEDIAL FORM;4HEH~;2TEH WITH MEEM~;4HEH~",
     "2THEH WITH MEEM~;4HEH~;2SEEN WITH MEEM~;4HEH~;2SHEEN WITH MEEM~;4HEH~;2KAF WITH LAM~;4MEEM~;2LAM~;2NOON~",
     "4HEH~;2YEH WITH MEEM~;4HEH~;2SHADDA WITH FATHA~;4DAMMA~;4KASRA~;2TAH WITH ALEF MAKSURA ISOLATED FORM",
     "4YEH ISOLATED FORM;2AIN WITH ALEF MAKSURA ISOLATED FORM;4YEH ISOLATED FORM",
     "2GHAIN WITH ALEF MAKSURA ISOLATED FORM;4YEH ISOLATED FORM;2SEEN WITH ALEF MAKSURA ISOLATED FORM",
     "4YEH ISOLATED FORM;2SHEEN WITH ALEF MAKSURA ISOLATED FORM;4YEH ISOLATED FORM",
     "2HAH WITH ALEF MAKSURA ISOLATED FORM;4YEH ISOLATED FORM;2JEEM WITH ALEF MAKSURA ISOLATED FORM",
     "4YEH ISOLATED FORM;2KHAH WITH ALEF MAKSURA ISOLATED FORM;4YEH ISOLATED FORM",
     "2SAD WITH ALEF MAKSURA ISOLATED FORM;4YEH ISOLATED FORM;2DAD WITH ALEF MAKSURA ISOLATED FORM",
     "4YEH ISOLATED FORM;2SHEEN WITH JEEM~;4HAH~;4KHAH~;4MEEM~;4REH~;2SEEN~;2SAD~;2DAD~",
     "2TAH WITH ALEF MAKSURA FINAL FORM;4YEH FINAL FORM;2AIN WITH ALEF MAKSURA FINAL FORM;4YEH FINAL FORM",
     "2GHAIN WITH ALEF MAKSURA FINAL FORM;4YEH FINAL FORM;2SEEN WITH ALEF MAKSURA FINAL FORM;4YEH FINAL FORM",
     "2SHEEN WITH ALEF MAKSURA FINAL FORM;4YEH FINAL FORM;2HAH WITH ALEF MAKSURA FINAL FORM;4YEH FINAL FORM",
     "2JEEM WITH ALEF MAKSURA FINAL FORM;4YEH FINAL FORM;2KHAH WITH ALEF MAKSURA FINAL FORM;4YEH FINAL FORM",
     "2SAD WITH ALEF MAKSURA FINAL FORM;4YEH FINAL FORM;2DAD WITH ALEF MAKSURA FINAL FORM;4YEH FINAL FORM",
     "2SHEEN WITH JEEM~;4HAH~;4KHAH~;4MEEM~;4REH~;2SEEN~;2SAD~;2DAD~;2SHEEN WITH JEEM INITIAL~;4HAH~;4KHAH~;4MEEM~",
     "2SEEN WITH HEH~;2SHEEN~;2TAH WITH MEEM~;2SEEN WITH JEEM MEDIAL~;4HAH~;4KHAH~;2SHEEN WITH JEEM~;4HAH~;4KHAH~",
     "2TAH WITH MEEM~;2ZAH~;2ALEF WITH FATHATAN FINAL~;5ISOLATED~;0ORNATE LEFT PARENTHESIS;1RIGHT~",
     "0ARABIC LIGATURE RAHIMAHU ALLAAH;2RADI ALLAAHU ANH;4ANHAA;4ANHUM;4ANHUMAA;4ANHUNNA",
     "2SALLALLAAHU ALAYHI WA-AALIH;2ALAYHI AS-SALAAM;2ALAYHIM~;2ALAYHIMAA~;2ALAYHI AS-SALAATU WAS-SALAAM",
     "2QUDDISA SIRRAH;2SALLALLAHU ALAYHI WAAALIHEE WA-SALLAM;2ALAYHAA AS-SALAAM;2TABAARAKA WA-TAAALAA",
     "2RAHIMAHUM ALLAAH;2TEH WITH JEEM WITH MEEM INITIAL FORM;4HAH WITH JEEM FINAL~;7INITIAL~;6MEEM~;4KHAH~",
     "4MEEM WITH JEEM~;6HAH~;6KHAH~;2JEEM WITH MEEM WITH HAH FINAL~;7INITIAL~;2HAH WITH MEEM WITH YEH FINAL~",
     "6ALEF MAKSURA FINAL FORM;2SEEN WITH HAH WITH JEEM INITIAL FORM;4JEEM WITH HAH~;6ALEF MAKSURA FINAL FORM",
     "4MEEM WITH HAH FINAL FORM;7INITIAL~;6JEEM~;6MEEM FINAL~;7INITIAL~;2SAD WITH HAH WITH HAH FINAL~;7INITIAL~",
     "4MEEM WITH MEEM FINAL~;2SHEEN WITH HAH~;7INITIAL~;4JEEM WITH YEH FINAL~;4MEEM WITH KHAH~;7INITIAL~",
     "6MEEM FINAL~;7INITIAL~;2DAD WITH HAH WITH ALEF MAKSURA FINAL FORM;4KHAH WITH MEEM FINAL FORM;7INITIAL~",
     "2TAH WITH MEEM WITH HAH FINAL~;7INITIAL~;6MEEM~;6YEH FINAL~;2AIN WITH JEEM WITH MEEM~;4MEEM~;7INITIAL~",
     "6ALEF MAKSURA FINAL FORM;2GHAIN WITH MEEM WITH MEEM FINAL FORM;6YEH~;6ALEF MAKSURA FINAL FORM",
     "2FEH WITH KHAH WITH MEEM FINAL FORM;7INITIAL~;2QAF WITH MEEM WITH HAH FINAL~;6MEEM~;2LAM WITH HAH~;6YEH~",
     "6ALEF MAKSURA FINAL FORM;4JEEM WITH JEEM INITIAL FORM;7FINAL~;4KHAH WITH MEEM~;7INITIAL~",
     "4MEEM WITH HAH FINAL~;7INITIAL~;2MEEM WITH HAH WITH JEEM~;6MEEM~;6YEH FINAL~;4JEEM WITH HAH INITIAL~;6MEEM~",
     "4KHAH WITH JEEM~;6MEEM~"]⟩,
   ⟨0xFD92, ["0ARABIC LIGATURE MEEM WITH JEEM WITH KHAH INITIAL FORM;2HEH WITH MEEM WITH JEEM~;6MEEM~",
     "2NOON WITH HAH~;6ALEF MAKSURA FINAL FORM;4JEEM WITH MEEM FINAL FORM;7INITIAL~;6ALEF MAKSURA FINAL FORM",
     "4MEEM WITH YEH FINAL FORM;6ALEF MAKSURA FINAL FORM;2YEH WITH MEEM WITH MEEM FINAL FORM;7INITIAL~",
     "2BEH WITH KHAH WITH YEH FINAL~;2TEH WITH JEEM~;6ALEF MAKSURA FINAL FORM;4KHAH WITH YEH FINAL FORM",
     "6ALEF MAKSURA FINAL FORM;4MEEM WITH YEH FINAL FORM;6ALEF MAKSURA FINAL FORM",
     "2JEEM WITH MEEM WITH YEH FINAL FORM;4HAH WITH ALEF MAKSURA FINAL FORM;4MEEM~;2SEEN WITH KHAH~",
     "2SAD WITH HAH WITH YEH FINAL FORM;2SHEEN~;2DAD~;2LAM WITH JEEM~;4MEEM~;2YEH WITH HAH~;4JEEM~;4MEEM~;2MEEM~",
     "2QAF~;2NOON WITH HAH~;2QAF WITH MEEM WITH HAH INITIAL~;2LAM WITH HAH WITH MEEM~",
     "2AIN WITH MEEM WITH YEH FINAL~;2KAF~;2NOON WITH JEEM WITH HAH INITIAL~;2MEEM WITH KHAH WITH YEH FINAL~",
     "2LAM WITH JEEM WITH MEEM INITIAL~;2KAF WITH MEEM WITH MEEM FINAL~;2LAM WITH JEEM~;2NOON WITH JEEM WITH HAH~",
     "2JEEM WITH HAH WITH YEH~;2HAH WITH JEEM~;2MEEM~;2FEH WITH MEEM~;2BEH WITH HAH~",
     "2KAF WITH MEEM WITH MEEM INITIAL~;2AIN WITH JEEM~;2SAD WITH MEEM~;2SEEN WITH KHAH WITH YEH FINAL~",
     "2NOON WITH JEEM~"]⟩,
   ⟨0xFDCF, ["0ARABIC LIGATURE SALAAMUHU ALAYNAA"]⟩,
   ⟨0xFDF0, ["0ARABIC LIGATURE SALLA USED AS KORANIC STOP SIGN ISOLATED FORM;2QALA~;2ALLAH ISOLATED FORM;2AKBAR~",
     "2MOHAMMAD~;2SALAM~;2RASOUL~;2ALAYHE~;2WASALLAM~;2SALLA~;2SALLALLAHOU ALAYHE WASALLAM;2JALLAJALALOUHOU",
     "0RIAL SIGN;0ARABIC LIGATURE BISMILLAH AR-RAHMAN AR-RAHEEM;2SUBHAANAHU WA TAAALAA;2AZZA WA JALL",
     "0VARIATION SELECTOR-1;1SELECTOR-2;1SELECTOR-3;1SELECTOR-4;1SELECTOR-5;1SELECTOR-6;1SELECTOR-7;1SELECTOR-8",
     "1SELECTOR-9;1SELECTOR-10;1SELECTOR-11;1SELECTOR-12;1SELECTOR-13;1SELECTOR-14;1SELECTOR-15;1SELECTOR-16",
     "0PRESENTATION FORM FOR VERTICAL COMMA;4IDEOGRAPHIC COMMA;5FULL STOP;4COLON;4SEMICOLON;4EXCLAMATION MARK",
     "4QUESTION~;4LEFT WHITE LENTICULAR BRACKET;4RIGHT WHITE LENTICULAR BRAKCET;4HORIZONTAL ELLIPSIS"]⟩,
   ⟨0xFE20, ["0COMBINING LIGATURE LEFT HALF;2RIGHT~;1DOUBLE TILDE LEFT HALF;3RIGHT~;1MACRON LEFT HALF;2RIGHT~",
     "1CONJOINING MACRON;1LIGATURE LEFT HALF BELOW;2RIGHT~;1TILDE LEFT~;2RIGHT~;1MACRON LEFT~;2RIGHT~",
     "1CONJOINING MACRON BELOW;1CYRILLIC TITLO LEFT HALF;3RIGHT~;0PRESENTATION FORM FOR VERTICAL TWO DOT LEADER",
     "4EM DASH;4EN~;4LOW LINE;4WAVY LOW LINE;4LEFT PARENTHESIS;4RIGHT~;4LEFT CURLY BRACKET;4RIGHT~",
     "4LEFT TORTOISE SHELL BRACKET;4RIGHT~;4LEFT BLACK LENTICULAR~;4RIGHT~;4LEFT DOUBLE ANGLE~;4RIGHT~",
     "4LEFT ANGLE BRACKET;4RIGHT~;4LEFT CORNER~;4RIGHT~;4LEFT WHITE CORNER BRACKET;4RIGHT~;0SESAME DOT",
     "0WHITE SESAME DOT;0PRESENTATION FORM FOR VERTICAL LEFT SQUARE BRACKET;4RIGHT~;0DASHED OVERLINE;0CENTRELINE~",
     "0WAVY~;0DOUBLE WAVY OVERLINE;0DASHED LOW LINE;0CENTRELINE~;0WAVY~;0SMALL COMMA;1IDEOGRAPHIC COMMA;1FULL STOP"]⟩,
   ⟨0xFE54, ["0SMALL SEMICOLON;1COLON;1QUESTION MARK;1EXCLAMATION~;1EM DASH;1LEFT PARENTHESIS;1RIGHT~",
     "1LEFT CURLY BRACKET;1RIGHT~;1LEFT TORTOISE SHELL BRACKET;1RIGHT~;1NUMBER SIGN;1AMPERSAND;1ASTERISK;1PLUS SIGN",
     "1HYPHEN-MINUS;1LESS-THAN SIGN;1GREATER-THAN~;1EQUALS~"]⟩,
   ⟨0xFE68, ["0SMALL REVERSE SOLIDUS;1DOLLAR SIGN;1PERCENT~;1COMMERCIAL AT"]⟩,
   ⟨0xFE70, ["0ARABIC FATHATAN ISOLATED FORM;1TATWEEL WITH FATHATAN ABOVE;1DAMMATAN ISOLATED FORM;1TAIL FRAGMENT",
     "1KASRATAN ISOLATED FORM"]⟩,
   ⟨0xFE76, ["0ARABIC FATHA ISOLATED FORM;2MEDIAL~;1DAMMA ISOLATED~;2MEDIAL~;1KASRA ISOLATED~;2MEDIAL~",
     "1SHADDA ISOLATED~;2MEDIAL~;1SUKUN ISOLATED~;2MEDIAL~;1LETTER HAMZA ISOLATED FORM",
     "2ALEF WITH MADDA ABOVE ISOLATED FORM;6FINAL~;4HAMZA ABOVE ISOLATED~;6FINAL~;2WAW WITH HAMZA ABOVE ISOLATED~",
     "6FINAL~;2ALEF WITH HAMZA BELOW ISOLATED~;6FINAL~;2YEH WITH HAMZA ABOVE ISOLATED~;6FINAL~;6INITIAL~;6MEDIAL~",
     "2ALEF ISOLATED FORM;3FINAL~;2BEH ISOLATED~;3FINAL~;3INITIAL~;3MEDIAL~;2TEH MARBUTA ISOLATED FORM;4FINAL~",
     "3ISOLATED FORM;3FINAL~;3INITIAL~;3MEDIAL~;2THEH ISOLATED~;3FINAL~;3INITIAL~;3MEDIAL~;2JEEM ISOLATED~;3FINAL~",
     "3INITIAL~;3MEDIAL~;2HAH ISOLATED~;3FINAL~;3INITIAL~;3MEDIAL~;2KHAH ISOLATED~;3FINAL~;3INITIAL~;3MEDIAL~",
     "2DAL ISOLATED~;3FINAL~;2THAL ISOLATED~;3FINAL~;2REH ISOLATED~;3FINAL~;2ZAIN ISOLATED~;3FINAL~;2SEEN ISOLATED~",
     "3FINAL~;3INITIAL~;3MEDIAL~;2SHEEN ISOLATED~;3FINAL~;3INITIAL~;3MEDIAL~;2SAD ISOLATED~;3FINAL~;3INITIAL~",
     "3MEDIAL~;2DAD ISOLATED~;3FINAL~;3INITIAL~;3MEDIAL~;2TAH ISOLATED~;3FINAL~;3INITIAL~;3MEDIAL~;2ZAH ISOLATED~",
     "3FINAL~;3INITIAL~;3MEDIAL~;2AIN ISOLATED~;3FINAL~;3INITIAL~;3MEDIAL~;2GHAIN ISOLATED~;3FINAL~;3INITIAL~",
     "3MEDIAL~;2FEH ISOLATED~;3FINAL~;3INITIAL~;3MEDIAL~;2QAF ISOLATED~;3FINAL~;3INITIAL~;3MEDIAL~;2KAF ISOLATED~",
     "3FINAL~;3INITIAL~;3MEDIAL~;2LAM ISOLATED~;3FINAL~;3INITIAL~;3MEDIAL~;2MEEM ISOLATED~;3FINAL~;3INITIAL~",
     "3MEDIAL~;2NOON ISOLATED~;3FINAL~;3INITIAL~;3MEDIAL~;2HEH ISOLATED~;3FINAL~;3INITIAL~;3MEDIAL~;2WAW ISOLATED~",
     "3FINAL~;2ALEF MAKSURA ISOLATED FORM;4FINAL~;2YEH ISOLATED FORM;3FINAL~;3INITIAL~;3MEDIAL~",
     "1LIGATURE LAM WITH ALEF WITH MADDA ABOVE ISOLATED FORM;8FINAL~;6HAMZA ABOVE ISOLATED~;8FINAL~",
     "7BELOW ISOLATED~;8FINAL~;5ISOLATED FORM;5FINAL~"]⟩,
   ⟨0xFEFF, ["0ZERO WIDTH NO-BREAK SPACE"]⟩,
   ⟨0xFF01, ["0FULLWIDTH EXCLAMATION MARK;1QUOTATION~;1NUMBER SIGN;1DOLLAR~;1PERCENT~;1AMPERSAND;1APOSTROPHE",
     "1LEFT PARENTHESIS;1RIGHT~;1ASTERISK;1PLUS SIGN;1COMMA;1HYPHEN-MINUS;1FULL STOP;1SOLIDUS;1DIGIT ZERO;2ONE;2TWO",
     "2THREE;2FOUR;2FIVE;2SIX;2SEVEN;2EIGHT;2NINE;1COLON;1SEMICOLON;1LESS-THAN SIGN;1EQUALS~;1GREATER-THAN~",
     "1QUESTION MARK;1COMMERCIAL AT;1LATIN CAPITAL LETTER A;4B;4C;4D;4E;4F;4G;4H;4I;4J;4K;4L;4M;4N;4O;4P;4Q;4R;4S",
     "4T;4U;4V;4W;4X;4Y;4Z;1LEFT SQUARE BRACKET;1REVERSE SOLIDUS;1RIGHT SQUARE BRACKET;1CIRCUMFLEX ACCENT;1LOW LINE",
     "1GRAVE ACCENT;1LATIN SMALL LETTER A;4B;4C;4D;4E;4F;4G;4H;4I;4J;4K;4L;4M;4N;4O;4P;4Q;4R;4S;4T;4U;4V;4W;4X;4Y",
     "4Z;1LEFT CURLY BRACKET;1VERTICAL LINE;1RIGHT CURLY BRACKET;1TILDE;1LEFT WHITE PARENTHESIS;1RIGHT~",
     "0HALFWIDTH IDEOGRAPHIC FULL STOP;1LEFT CORNER BRACKET;1RIGHT~;1IDEOGRAPHIC COMMA;1KATAKANA MIDDLE DOT",
     "2LETTER WO;3SMALL A;4I;4U;4E;4O;4YA;4YU;4YO;4TU;1KATAKANA-HIRAGANA PROLONGED SOUND MARK;1KATAKANA LETTER A;3I",
     "3U;3E;3O;3KA;3KI;3KU;3KE;3KO;3SA;3SI;3SU;3SE;3SO;3TA;3TI;3TU;3TE;3TO;3NA;3NI;3NU;3NE;3NO;3HA;3HI;3HU;3HE;3HO",
     "3MA;3MI;3MU;3ME;3MO;3YA;3YU;3YO;3RA;3RI;3RU;3RE;3RO;3WA;3N;2VOICED SOUND MARK;2SEMI-VOICED~;1HANGUL FILLER",
     "2LETTER KIYEOK;3SSANGKIYEOK;3KIYEOK-SIOS;3NIEUN;3NIEUN-CIEUC;3NIEUN-HIEUH;3TIKEUT;3SSANGTIKEUT;3RIEUL",
     "3RIEUL-KIYEOK;3RIEUL-MIEUM;3RIEUL-PIEUP;3RIEUL-SIOS;3RIEUL-THIEUTH;3RIEUL-PHIEUPH;3RIEUL-HIEUH;3MIEUM;3PIEUP",
     "3SSANGPIEUP;3PIEUP-SIOS;3SIOS;3SSANGSIOS;3IEUNG;3CIEUC;3SSANGCIEUC;3CHIEUCH;3KHIEUKH;3THIEUTH;3PHIEUPH;3HIEUH"]⟩,
   ⟨0xFFC2, ["0HALFWIDTH HANGUL LETTER A;3AE;3YA;3YAE;3EO;3E"]⟩,
   ⟨0xFFCA, ["0HALFWIDTH HANGUL LETTER YEO;3YE;3O;3WA;3WAE;3OE"]⟩,
   ⟨0xFFD2, ["0HALFWIDTH HANGUL LETTER YO;3U;3WEO;3WE;3WI;3YU"]⟩,
   ⟨0xFFDA, ["0HALFWIDTH HANGUL LETTER EU;3YI;3I"]⟩,
   ⟨0xFFE0, ["0FULLWIDTH CENT SIGN;1POUND~;1NOT~;1MACRON;1BROKEN BAR;1YEN SIGN;1WON~"]⟩,
   ⟨0xFFE8, ["0HALFWIDTH FORMS LIGHT VERTICAL;1LEFTWARDS ARROW;1UPWARDS~;1RIGHTWARDS~;1DOWNWARDS~;1BLACK SQUARE",
     "1WHITE CIRCLE"]⟩,
   ⟨0xFFF9, ["0INTERLINEAR ANNOTATION ANCHOR;2SEPARATOR;2TERMINATOR;0OBJECT REPLACEMENT CHARACTER",
     "0REPLACEMENT CHARACTER"]⟩]

end ReportCard.Text
