/-!
Words that are common in the names of characters. The tables write the first of them by one small
letter each, the others by two.
-/

namespace CodeLint.Text

def commonWords : List String :=
  ["LETTER WITH CAPITAL FORM ARROW SIGN RIGHT ISOLATED RIGHTWARDS ABOVE SMALL DOUBLE FINAL LEFT",
   "LEFTWARDS VERTICAL INITIAL THREE AND TRIANGLE-HEADED SYMBOL BELOW BLACK HORIZONTAL WHITE MARK",
   "DOWNWARDS HUNDRED THOUSAND STROKE BRACKET MIDDLE WEST-CREE TRIANGLE GREATER-THAN HEAVY",
   "ARROWHEAD SQUARE CIRCLE UPWARDS EIGHT TIMES FOUR SEVEN REVERSED LESS-THAN CIRCUMFLEX",
   "YPOGEGRAMMENI FIVE PERISPOMENI POINTING PUNCTUATION MEDIUM PARENTHESIS DIAERESIS MEDIAL HOOK",
   "INVERTED MAKSURA PROSGEGRAMMENI INDEX EQUAL TWO TURNED VOWEL LIGHT ORNAMENT ROTATED ONE DIGIT",
   "LOWER MEEM ANUSVARA SINGLE PLUS VOCALIC RETROFLEX DOWN RIGHT-POINTING HARPOON HALF ASTERISK",
   "CANDRABINDU NINE COMBINING CIRCLED DEGREES OPERATOR NUMBER TILDE UPPER FACE DIAGONAL THUMB DOT",
   "DOTS OVER DASIA PSILI EXCLAMATION CENTRE ALEF SEPARATOR LARGE LEFT-POINTING EQUILATERAL",
   "QUOTATION LITTLE RING DIAMOND BARB HAND-FIST ANTICLOCKWISE MOVEMENT-FLOORPLANE ACUTE VARIA",
   "TRIPLE CROSSING ZERO BLOCK SANS-SERIF MOVEMENT-WALLPLANE VISARGA MODIFIER COMMA ABBREVIATION",
   "POINTED SQUARED QUESTION TRIANGULAR OPEN SEVENTY JEEM LIGATURE MACRON QUARTER LONG VIRAMA",
   "TWENTY INTERSECTION LATIN ANGLE TONE CONSONANT ALTERNATE ALTERNATING SIX GRAVE HIGH HITTING",
   "ACCENT DOTTED NINETY STOP SHORT UNDERBAR HAND-CIRCLE BAR NORTH PALATAL C-SIMPLIFIED SUPERSET",
   "EQUALS HAND-HINGE UPSILON DIGRAPH CROSS YENISEI DESCENDER LINE STRAIGHT SOUTH IDEOGRAPHIC",
   "EPSILON CLOSED BOTTOM EAST CORNER OXIA DOWN-POINTING MULTIPLICATION CONJOINED YEH UP-POINTING",
   "STAR SOLIDUS SECTION GLOTTAL FINGERS EQUIVALENT ORKHON DOUBLE-STRUCK SUPERSCRIPT FRACTION",
   "INTEGRAL KNIGHT ARCHAION KHAH WEST REVERSE HAMZA CHARACTER VARIANT SLANTED EIGHTH GUNU FULL",
   "TORTOISE RAISED SUBSET NEUTRAL BREVE TAIL ALPHA OMEGA SYLLABLE FIFTY LOW OVERLAY COLON CHESS",
   "SCRIPT DIALYTIKA ARABIC-INDIC HAH AVAGRAHA NEGATIVE DAGESH TABULATION HAND-ANGLE DANDA ARCHAIC",
   "OMICRON FORWARD QUARTERS THIRTY CLOCKWISE QUADRANT HEART TTHA DASH TENU TEN MAHAAPRAANA",
   "CEDILLA CROSSED-TAIL SIMALUNGUN BETWEEN SMILING TWO-HEADED CYRILLIC DDHA TEARDROP-SPOKED",
   "DIAMONDS SEMICOLON TELEPHONE NOON CURLY CARON SIGMA NGA SHA GREEK THETA ARABIC INSIDE NUKTA",
   "ALPAPRAANA MULTIPLE PRECEDES SUCCEEDS SHADOWED QUADRUPLE EIGHTHS SHELL SPOKED",
   "ROTATION-FLOORPLANE TACK CHA NOTEHEAD DOTLESS NYA APOSTROPHE KHA LENTICULAR ROTATION-WALLPLANE",
   "CHARACTERS HEARTS SPACE INDEPENDENT ITERATION LEFT-STEM SHAFT GAMMA ALMOST SAMEKH THA MUSICAL",
   "FROM ARROWS PRODUCT LOGICAL OVERBAR LOZENGE PERSON HAND MOUTH KATAKANA-HIRAGANA KATAKANA",
   "CIRCLES HINGED NOT IOTA SHIN BENT DELTA CANDRA LENGTH EIGHTY BOLD LAMEDH COMPRESSED KRYZHEM",
   "POVYSHE TONOS IOTIFIED SHEEN PHA VERY TWELFTHS KLYUCHEVAYA COPTIC SEEN BULLET TWELVE SPADES",
   "MINUS KAPPA FORTY CURVE CARRIER INSULAR MATHEMATICAL DIFFERENTIAL FIFTEEN SALTIRE MOON CROSSED",
   "THROUGH SUBSTITUTION SIDE AMPERSAND INDICATOR THOUSANDS TTA MAHAPRANA TURNSTILE EXTENSION",
   "SEVENTEEN CRESCENTS ZAPYATAYA GHAIN VERTICALLY RISING SIDEWAYS DDA SIXTY SOUND DASHED UNION",
   "EIGHTEEN CONTAINING ENVELOPE PINWHEEL ALEPH NEPOSTOYANNAYA SPREAD GHA DHA NUN NUMERAL GIMEL",
   "ROUNDED OBLIQUE SIXTEEN JIHVAMULIYA UPADHMANIYA NASKAPI SVARITA SLASH INFORMATION ELEMENT",
   "INVERSE QUEEN SINGLE-LINE DOUBLE-LINE HYPHEN ASH NNA Y-CREE CRYPTOGRAMMIC TEDUNG LEFT-TO-RIGHT",
   "ELEVEN APPROXIMATELY BISHOP DISH KASKAL OCLOCK BHA DIVISION HORN CURL OVERLINE SUBSCRIPT",
   "EXTENDED SADHE ELLIPSIS BACKSLASH WAVE CONTAINS PARALLEL SUBGROUP NOTATION RECTANGLE THIRTEEN",
   "FOURTEEN NINETEEN SHADE MOUNTAIN LEAF OPPOSING SVETLAYA DODEKATA MOVEMENT BACKHAND TOP SSA",
   "BLACK-LETTER ITALIC CEILING CONTROL CURVED NOTCHED LARGEST EYES BAMBOOS EQUIHOPPER LAMDA ZAYIN",
   "EARTH CLUBS FOR NOTE WAW THE OLD FISHHOOK VOICED END LUNATE MILLIONS POINT LAM KASRA HEAD",
   "HANGUL CENTRALIZATION INTERROBANG THIRD NORMAL WATER PLASTICS OUTLINED JAPANESE AIRPLANE",
   "RIGHT-SHADOWED BESIDE DALETH GROMOPOVODNAYA ICHOS WRINKLED CENTRED JHA SIXTEENTH SUBJOINED",
   "CHIEUCH KHIEUKH THIEUTH PHIEUPH PARTIAL SUBUNIT STATERS SHESHIG EXTREMELY BETA KING REST GAN2",
   "PRIME FATHA RTAGS SHE RIGHT-TO-LEFT CHECK PARENTHESIZED LAGAB WRIST COMMERCIAL OGONEK BETH",
   "GEMINATION FILLER SAYISI THIRDS SEMICIRCLE SEMIDIRECT BUBBLE HYPHEN-MINUS LOOP CLICK ROUND REH",
   "RIGHT-FACING AIN FATHATAN KAPH ATTACHED SIDDHAM CANCELLATION TSHEG SHAD PIEUP-SIOS-TIKEUT",
   "RIEUL-KIYEOK INFINITY MURDA TRANSMISSION CRESCENT MONOGRAM FALLING SCISSORS SIMILAR",
   "J-SIMPLIFIED HIRAGANA PRESENTATION TALENTS THESPIAN TAK4 GISH KHOKHLOM ZAPYATOY HAND-CUP",
   "EYEGAZE-WALLPLANE ANTIMONY KAF TSA BARRED ZIGZAG MARKER ZAIN HEH PARAGRAPH HETH WORD TSHA",
   "KIYEOK TIKEUT VARIATION KOET PAIRED DRAGON LONSUM YODH SECANT KENTIMATA HAND-OVAL HAND-HOOK",
   "FINGER SUBLIMATE LEFT-FACING TAH DAMMA LLA CARET SSANGKIYEOK SSANGTIKEUT RIEUL-HIEUH",
   "NIEUN-CIEUC NIEUN-HIEUH RIEUL-MIEUM RIEUL-PIEUP BIRGA FLOOR ACKNOWLEDGE APPROXIMATE",
   "TWENTY-FIVE SHAR2 TRESVETLAYA EKFONITIKON FINGER-POST RHO KAPYEOUNPHIEUPH GAR QUAD BOX FILL",
   "NEO QAF CORNERS IOTATED DIVIDER HOLDING MEASURE IGI BARLINE CONTACT DOLLAR CURRENCY PHI",
   "EXTRA-HIGH JOINER ZETA ARMENIAN RESH MADDA DAMMATAN KASRATAN WITHIN ANUDATTA SIXTEENTHS POWERS",
   "CIRCULAR KAREN GEORGIAN SSANGPIEUP IEUNG CIEUC SSANGCIEUC PIEUP-SIOS RIEUL-SIOS FIRST MEASURED",
   "IMAGE ORIGINAL UNDER KEYBOARD UMBRELLA BALLOT BALLOON-SPOKED ARROW-TAIL PENTAGON U-SHAPED",
   "ARROWHEADS TUAREG SECOND SIMPLIFIED SPEECH HORSE HANDS TONGUE LENGTHENER LOGOGRAM IDEOGRAM",
   "NIKOLSBURG GESH2 SEQUENTIAL BUILDING SILHOUETTE FOLDER ONCOMING CHI YANG FEH AYIN THEH SAD",
   "PRISHTHAMATRA ONE-HUNDRED-AND-SIXTIETH KAPYEOUNMIEUM KAPYEOUNPIEUP RIEUL-THIEUTH RIEUL-PHIEUPH",
   "ROOK PAWN FLAG BALL PERPENDICULAR TRANSPOSITION THIRTY-SECOND HAND-CURLICUE SCHWA EXTRA-LOW",
   "BEGIN YUS ABKHASIAN START SUBLINEAR ZHA DELIMITER NIEUN RIEUL MIEUM"]

end CodeLint.Text
