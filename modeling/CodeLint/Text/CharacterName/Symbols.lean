/-!
Names of characters: punctuation, symbols and the scripts of East Asia.
The entries are explained where the names are looked up.
-/

namespace CodeLint.Text

set_option maxRecDepth 20000

def symbolNames : List String :=
  ["@2000 0EN wf|0EM wf|0EN kc|0EM kc|0THREE-PER-EM kc|0FOUR-PER-EM kc|0SIX-PER-EM kc|0FIGURE kc",
   "0az kc|0THIN kc|0HAIR kc|0do WIDTH kc|2NON-JOINER|2ww|0om z|0sj z|0og|0NON-BREAKING og",
   "0FIGURE ig|0EN ig|0EM ig|0x fb|0l p fn|1hj fn|0n bv dc z|0g bv dc z|0bv LOW-9 dc z",
   "1HIGH-REVERSED-9 dc z|0n l dc z|0g l dc z|0l LOW-9 dc z|1HIGH-REVERSED-9 dc z|0DAGGER",
   "0l DAGGER|0lv|0dz lv|0bq cq LEADER|0bk cq LEADER|0x pb|0HYPHENATION qu|0fn cy|0up cy",
   "0om EMBEDDING|0sj EMBEDDING|0POP DIRECTIONAL FORMATTING|0om OVERRIDE|0sj OVERRIDE",
   "0NARROW NO-BREAK kc|0PER MILLE f|1ii ac f|0sf|0l sf|0dm sf|0as sf|1l sf|1dm sf|0vl",
   "0bv da el dc z|1ca el dc z|0REFERENCE z|0l cv z|0ra|0ox|0UNDERTIE|0gt TIE|0vl INSERTION qu",
   "0ASTERISM|0og lv|0gl nz|0n al ae b QUILL|0g al ae b QUILL|0l dy z|0dy cv z|0cv dy z",
   "0TIRONIAN f ET|0as PILCROW f|0w o lv|1i lv|0hj cd|0as iu|0CLOSE UP|0bk ASTERISKS ALIGNED my",
   "0so ly f|0SWUNG ig|0bf UNDERTIE|0FLOWER az z|0r cq az|0jm sf|0aq cq az|0aw cq az|0bk cq az",
   "0aq cq z|0ev fk|0TRICOLON|0p aq cr|0ba me kc|0ur ww|0FUNCTION APPLICATION|0INVISIBLE ap|1cy",
   "1bw|@2066 0om ISOLATE|0sj ISOLATE|0xq STRONG ISOLATE|0POP DIRECTIONAL ISOLATE",
   "0INHIBIT SYMMETRIC SWAPPING|0ACTIVATE SYMMETRIC SWAPPING|0INHIBIT je d SHAPING",
   "0ACTIVATE je d SHAPING|0NATIONAL br SHAPES|0NOMINAL br SHAPES|0gk do|1ek k a I|@2074 1aq|1aw",
   "1eq|1ar|1ao|1cf|1bw f|1ly|1fg f|1n bb|1g bb|1ek k a N|0oy do|1bq|1bk|1r|1aq|1aw|1eq|1ar|1ao",
   "1cf|1bw f|1ly|1fg f|1n bb|1g bb|@2090 0ek oy k a A|4E|4O|4X|4zo|4H|4K|=3|4P|4S|=",
   "@20A0 0EURO-CURRENCY f|0hl f|0CRUZEIRO f|0FRENCH FRANC f|0LIRA f|0MILL f|0NAIRA f|0PESETA f",
   "0RUPEE f|0WON f|0NEW SHEQEL f|0DONG f|0EURO f|0KIP f|0TUGRIK f|0DRACHMA f|0GERMAN PENNY f",
   "0PESO f|0GUARANI f|0AUSTRAL f|0HRYVNIA f|0CEDI f|0LIVRE TOURNOIS f|0SPESMILO f|0TENGE f",
   "0INDIAN RUPEE f|0TURKISH LIRA f|0NORDIC z f|0MANAT f|0RUBLE f|0LARI f|0BITCOIN f|0SOM f",
   "@20D0 0cg n cb j|1g cb j|1eg p fn hk|1ey p fn hk|1di e j|1ic e j|1n e j|1g e j|1de hk",
   "1ic de hk|1di de hk|1r cr j|1aq cr j|1ENCLOSING am|2al|2df|2am pc|1n g e j|1ENCLOSING SCREEN",
   "2KEYCAP|2UPWARD ay ah|1gr gd hk|1l p ad hk|1ANNUITY u|1dm UNDERDOT|1WIDE BRIDGE j|1o e hk",
   "1eg l gd hk|1i cb b dg aa|1o cb b dg aa|1n e v|1g e v|1cd j|@2100 0ACCOUNT OF",
   "0ADDRESSED TO qn SUBJECT|0gj c C|0DEGREE CELSIUS|0cw fn u|0CARE OF|0CADA UNA|0EULER CONSTANT",
   "0SCRUPLE|0DEGREE FAHRENHEIT|0hn k G|1c H|0pw c H|0gj c H|0PLANCK CONSTANT|2cs bk PI|0hn c I",
   "0pw c I|0hn c L|-|0L B fb u|0gj c N|0NUMERO f|0nd RECORDING COPYRIGHT|0hn c P|0gj c P|=",
   "0hn c R|0pw c R|0gj c R|0PRESCRIPTION TAKE|0RESPONSE|0SERVICE z|0iv f|0TRADE z f|0VERSICLE",
   "0gj c Z|0OUNCE f|0OHM f|0bf OHM f|0pw c Z|0bl jc k a la|0KELVIN f|0ANGSTROM f|0hn c B|0pw c C",
   "0ESTIMATED u|0hn k E|1c E|=|0bl c F|0hn c M|1k O|0cx u|0BET u|0nr u|0DALET u|0oa SOURCE",
   "0bp c Q|0FACSIMILE f|0gj k PI|2kh|1c kh|2PI|1N-ARY SUMMATION|0bl dq c G|3L|0as dq c L",
   "0bl dq c Y|0gj px c D|-|=|3I|=|0PROPERTY fn|0bl mn|0PER f|0AKTIESELSKAB|0bl k F",
   "0u qk SAMARITAN SOURCE|0VULGAR gl bq SEVENTH|3NINTH|3TENTH|3rb|2bk su|2bq FIFTH|2bk FIFTHS",
   "2r FIFTHS|2aq FIFTHS|2bq SIXTH|2aw SIXTHS|2bq gw|2r jn|2aw jn|2ar jn|0gl NUMERATOR bq",
   "0ROMAN nq bq|2bk|2r|2aq|2aw|2eq|2ar|2ao|2cf|2ii|2on|2lw|2hi|2bq ab|2aw ab|2bq ac",
   "0k ROMAN nq bq|3bk|3r|3aq|3aw|3eq|3ar|3ao|3cf|3ii|3on|3lw|3hi|3bq ab|3aw ab|3bq ac",
   "0ROMAN nq bq ac C D|2aw ac|2ii ac|2as bq ab|0ek k a as C|0ROMAN nq eq LATE d|2hi EARLY d|3ac",
   "2bq ab ac|0VULGAR gl do su|0bl br bk|2r|@2190 0o e|0an e|0i e|0aa e|0n g e|0UP bz e|0fc gq e",
   "1fu e|0fp fu e|1gq e|0o e b ad|0i e b ad|0o pd e|0i pd e|0o bk HEADED e|0an bk HEADED e",
   "0i bk HEADED e|0aa bk HEADED e|0o e b he|0i e b he|0o e km fb|0an e km fb|0i e km fb",
   "0aa e km fb|0UP bz e b BASE|0o e b be|0i e b be|0o e b sz|0i e b sz|0n g pd e|2e b ad|0aa ul e",
   "0an e b TIP o|4i|0aa e b TIP o|4i|0i e b fv aa|0aa e b fv o|0di pu sv e|0ic pu sv e",
   "0fc gq e TO eg fb|0o e TO fb cs i e TO fb|0di ea am e|0ic ea am e|0o cb b dg an|4aa",
   "0an cb b dg i|4o|0i cb b dg an|4aa|0aa cb b dg i|4o|0i e cs o e|0an e o OF aa e|0o e cs i e",
   "1ux kn|0an ux kn|0i ux kn|0aa ux kn|0o cb cs i cb|0i cb cs o cb|0o l e b ad|0n g l e b ad",
   "0i l e b ad|0o l e|0an l e|0i l e|0aa l e|0n g l e|0UP bz l e|0fc gq l e|1fu l e|0fp fu l e",
   "1gq l e|0o dm e|0i dm e|0o SQUIGGLE e|0i SQUIGGLE e|0an e b l ad|0aa e b l ad|0o ne e|0an ne e",
   "0i ne e|0aa ne e|0o e TO fb|0i e TO fb|0o y e|0an y e|0i y e|0aa y e|0an y e km fb",
   "3ON PEDESTAL|5b x fb|6p fb|2l e|4ON PEDESTAL|0i y e km WALL|0fc gq e TO fv|0fp fu e TO fv",
   "0UP bz y e|0g e b k am|0aa e o OF an e|0r i kn|0o e b p ad|0i e b p ad|0n g e b p ad",
   "0o e b l p ad|0i e b l p ad|0n g e b l p ad|0o OPEN-HEADED e|0i OPEN-HEADED e",
   "0n g OPEN-HEADED e|0qk ALL|0COMPLEMENT|0rw mf|0THERE EXISTS|1DOES kz EXIST|0EMPTY SET",
   "0INCREMENT|0NABLA|0ob OF|0kz AN ob OF|0k ob OF|0pe AS MEMBER|0DOES kz CONTAIN AS MEMBER",
   "0k pe AS MEMBER|0qr OF PROOF|0N-ARY ko|1COPRODUCT|1SUMMATION|0ly f|0MINUS-OR-PLUS f|0cq bw",
   "0ou nz|0SET ly|0cd cj|0de cj|0lv cj|0al ROOT|0CUBE ROOT|0FOURTH ROOT|0PROPORTIONAL TO|0to",
   "0g el|0el|0xr el|0SPHERICAL el|0DIVIDES|0DOES kz DIVIDE|0pf TO|0kz pf TO|0kp s|1OR|0ej|0nf|0gm",
   "0l gm|0dm gm|0CONTOUR gm|0SURFACE gm|0VOLUME gm|0ic gm|1CONTOUR gm|0di CONTOUR gm|0THEREFORE",
   "0BECAUSE|0RATIO|0PROPORTION|0cq ly|0EXCESS|0GEOMETRIC PROPORTION|0HOMOTHETIC|0cl cj|0as cl",
   "0bf LAZY S|0SINE pd|0WREATH ko|0kz cl|0ly cl|0ASYMPTOTICALLY bj TO|0kz ASYMPTOTICALLY bj TO",
   "0oo bj TO|1BUT kz ACTUALLY bj TO|0NEITHER oo NOR ACTUALLY bj TO|0ki bj TO|0kz ki bj TO",
   "0ki bj OR bj TO|0dm cl|0ALL bj TO|0gh TO|0GEOMETRICALLY gh TO|0DIFFERENCE in",
   "0APPROACHES qn LIMIT|0GEOMETRICALLY bj TO|0oo bj TO OR qn xs OF|0xs OF OR oo bj TO|0hl fg",
   "0fg hl|0de IN bj TO|1bj TO|0CORRESPONDS TO|0ESTIMATES|0EQUIANGULAR TO|0gc fg|0ld bj TO",
   "0bj TO BY DEFINITION|0xr BY|0QUESTIONED bj TO|0kz bj TO|0IDENTICAL TO|0kz IDENTICAL TO",
   "0STRICTLY gh TO|0at OR bj TO|0ai OR bj TO|0at cs bj TO|0ai cs bj TO|0at BUT kz bj TO",
   "0ai BUT kz bj TO|0MUCH at|1ai|0in|0kz gh TO|1at|1ai|0NEITHER at NOR bj TO|1ai NOR bj TO",
   "0at OR gh TO|0ai OR gh TO|0NEITHER at NOR gh TO|1ai NOR gh TO|0at OR ai|0ai OR at",
   "0NEITHER at NOR ai|1ai NOR at|0jj|0jk|0jj OR bj TO|0jk OR bj TO|0jj OR gh TO|0jk OR gh TO",
   "0DOES kz PRECEDE|2SUCCEED|0hb OF|0ff OF|0kz A hb OF|2ff OF|0hb OF OR bj TO|0ff OF OR bj TO",
   "0NEITHER A hb OF NOR bj TO|2ff OF NOR bj TO|0hb OF b kz bj TO|0ff OF b kz bj TO|0MULTISET|1fy",
   "1nf|0al xs OF|1xt OF|1xs OF OR bj TO|1xt OF OR bj TO|1CAP|1CUP|0ch bw|1ly|1ap|1ou nz|1cq cj",
   "1de cj|1cd cj|1fg|1ig|0dx bw|1ly|1ap|1cq cj|0g jr|0n jr|0bz jr|0UP jr|0ASSERTION|0MODELS|0TRUE",
   "0FORCES|0dm p fb g ms|0l p fb l g ms|0DOES kz PROVE|0kz TRUE|0DOES kz FORCE",
   "0NEGATED l p fb l g ms|0jj xu RELATION|0jk xu RELATION|0rc pg OF|0pe AS rc pg",
   "0rc pg OF OR bj TO|0pe AS rc pg OR bj TO|0xt OF|0xs OF|0MULTIMAP|0HERMITIAN CONJUGATE MATRIX",
   "0INTERCALATE|0XOR|0NAND|0NOR|0g el b ARC|1ah|0N-ARY kp s|2OR|1ej|1nf|0df cj|0cq cj|0gc cj",
   "0ou ap|0BOWTIE|0n rc FACTOR sw ko|0g rc FACTOR sw ko|0n sw ko|0g sw ko|0as cl fg|0ix kp OR|2s",
   "0l hb|1ff|1ej|1nf|0PITCHFORK|0bj s pf TO|0at b cq|0ai b cq|0lq MUCH at|2ai|0at bj TO OR ai",
   "0ai bj TO OR at|0bj TO OR at|3ai|3jj|3jk|0DOES kz PRECEDE OR bj|2SUCCEED OR bj",
   "0kz al xs OF OR bj TO|2xt OF OR bj TO|0al xs OF OR kz bj TO|1xt OF OR kz bj TO",
   "0at BUT kz gh TO|0ai BUT kz gh TO|0jj BUT kz gh TO|0jk BUT kz gh TO|0kz rc pg OF",
   "0DOES kz CONTAIN AS rc pg|0kz rc pg OF OR bj TO|0DOES kz CONTAIN AS rc pg OR bj|0p pb",
   "0MIDLINE x pb|0UP g co pb|0bz g co pb|0ob OF b eg x ad|3p fb AT qr OF x ad",
   "0k ob OF b p fb AT qr OF x ad|0ob OF b cq j|3kq|0k ob OF b kq|0ob OF b ez|3bk x STROKES",
   "0pe b eg x ad|2p fb AT qr OF x ad|0k pe b p fb AT qr OF x ad|0pe b kq|0k pe b kq",
   "0Z ph BAG MEMBERSHIP|0DIAMETER f|0ELECTRIC e|0HOUSE|0UP ak|0bz ak|0PROJECTIVE|0PERSPECTIVE",
   "0WAVY fn|0n py|0g py|0n vu|0g vu|0ft g CROP|1n CROP|0pu g CROP|1n CROP|0as kz f|0al kr|0ARC",
   "0SEGMENT|0SECTOR|0iv RECORDER|0POSITION mo|0VIEWDATA al|0PLACE OF INTEREST f|0bl kz f|0WATCH",
   "0HOURGLASS|0pu n fv|1g fv|0ft n fv|1g fv|0pu cc gm|0ft cc gm|0FROWN|0SMILE|0UP ak in bk x BARS",
   "0OPTION KEY|0ERASE TO qn g|0X IN A pi wg|0xv|0da el ae|0ca el ae|0ERASE TO qn n|0BENZENE de",
   "0CYLINDRICITY|0ALL AROUND-PROFILE|0SYMMETRY|0TOTAL RUNOUT|0DIMENSION ORIGIN|0CONICAL TAPER",
   "0SLOPE|0COUNTERBORE|0COUNTERSINK|0APL FUNCTIONAL u I-BEAM|3SQUISH wf|3wf bj|4DIVIDE|4df|4JOT",
   "4am|3am STILE|4JOT|3nz fb|3pc fb|3wf nz|4pc|4at|4ai|3o VANE|3i VANE|3wf o e|4i e|3am pc",
   "3bz jr ez|3ld STILE|3wf bz vl|4ld|3bz jr JOT|3an VANE|3wf an e|3UP jr kq|3DEL STILE|3wf UP vl",
   "4DEL|3UP jr JOT|3aa VANE|3wf aa e|3QUOTE ez|3ld ez|3df ez|3JOT ez|3am ez|3UP SHOE JOT",
   "3QUOTE wf|3am gc|3wf hl|3UP jr bc|3DEL bc|3gc bc|3JOT bc|3am bc|3bz SHOE STILE|3n SHOE STILE",
   "3cl bc|3ai bc|3du fb|3DEL cl|3ZILDE|3STILE cl|3iu ez|3wf kz bj|4dy|3bz vl cl|3UP vl cl|3la|3wc",
   "3hg|3hf ez|3fr ez|3la ez|3hg ez|3hf|0kz sk z|0g el b aa ul e|0SHOULDERED ea wg|0BELL u",
   "0p fn b af cq|0INSERTION u|0CONTINUOUS UNDERLINE u|0DISCONTINUOUS UNDERLINE u|0EMPHASIS u",
   "0COMPOSITION u|0y al b cw p fn|0ENTER u|0ALTERNATIVE KEY u|0HELM u|0ch x fb b NOTCH|1ah bz",
   "0BROKEN am b NORTHWEST e|0UNDO u|0MONOSTABLE u|0HYSTERESIS u|0OPEN-CIRCUIT-OUTPUT H-TYPE u",
   "1L-TYPE u|0PASSIVE-PULL-DOWN-OUTPUT u|0PASSIVE-PULL-UP-OUTPUT u|0DIRECT CURRENT u d bk",
   "0SOFTWARE-FUNCTION u|0APL FUNCTIONAL u wf|0DECIMAL cy KEY u|0PREVIOUS PAGE|0NEXT PAGE",
   "0PRINT SCREEN u|0CLEAR SCREEN u|0n bb cm be|2mt|2bs be|0g bb cm be|2mt|2bs be|0n al ae cm fv",
   "3mt|3bs fv|0g al ae cm fv|3mt|3bs fv|0n ix ae cm be|3af PIECE|3bs be|0ix ae mt|0g ix ae cm be",
   "3af PIECE|3bs be|0gm mt|0x fn mt|0cm n OR bs g ix ae ge|1g OR bs n ix ae ge|0SUMMATION pu|1ft",
   "0pu al ae|0ft al ae|3cs pu al ae|0RADICAL u ft|0n p wg fn|0g p wg fn|0x SCAN LINE-1|2LINE-3",
   "2LINE-7|2LINE-9|0DENTISTRY u bn p s pu g|5ft g|4b am|3bz s x b am|3UP s x b am|3p b ah",
   "3bz s x b ah|3UP s x b ah|3p s pd|3bz s x b pd|3UP s x b pd|3bz s x|3UP s x|3p s pu n|5ft n",
   "0al FOOT|0RETURN u|0EJECT u|0p fn mt|0METRICAL hd|1eg cs ey|1ey cs eg|1eg cs bk SHORTS",
   "1bk SHORTS cs eg|3JOINED|1TRISEME|1TETRASEME|1PENTASEME|0qi GROUND|0FUSE|0pu bb|0ft bb",
   "0pu ix ae|0ft ix ae|0pu gz jo ae|0ft gz jo ae|0y TRAPEZIUM|0BENZENE de b am|0STRAIGHTNESS",
   "0FLATNESS|0AC CURRENT|0ELECTRICAL ej|0DECIMAL EXPONENT u|0w ca l ah|1da l ah|1gb l ah|1fx l ah",
   "1ca l ah b p fb|1da l ah b p fb|1ca ah b l p fb|0ALARM CLOCK|0STOPWATCH|0TIMER CLOCK",
   "0HOURGLASS b FLOWING SAND|0w ba da ah|2ca ah|2gb ah|2fx ah|0l p fb|0w al qk ex|1am qk RECORD",
   "0POWER u|1ON-OFF u|1ON u|1SLEEP u|0OBSERVER EYE u|0u qk NULL|2zt OF HEADING|4TEXT|2qr OF TEXT",
   "4tq|2ENQUIRY|2vv|2BELL|2BACKSPACE|2x hu|2fn FEED|2p hu|2d FEED|2CARRIAGE RETURN|2SHIFT OUT|3IN",
   "2DATA LINK ESCAPE|2DEVICE pz bq|4bk|4r|4aq|2hs vv|2SYNCHRONOUS IDLE|2qr OF tq dp|2CANCEL",
   "2qr OF ba|2SUBSTITUTE|2ESCAPE|2FILE cy|2GROUP cy|2RECORD cy|2UNIT cy|2kc|2DELETE|0BLANK u",
   "0ea wg|0u qk NEWLINE|2DELETE d bk|2SUBSTITUTE d bk|@2440 0OCR be|1CHAIR|1FORK|1bf FORK",
   "1BELT BUCKLE|1BOW TIE|1BRANCH BANK IDENTIFICATION|1AMOUNT OF sk|1ig|1CUSTOMER ACCOUNT ck|1l pc",
   "@2460 0ch br bq|2bk|2r|2aq|2aw|2eq|2ar|2ao|2cf|1ck ii|2on|2lw|2pj|2pk|2mg|2nu|2mu|2ng|2pl|2ei",
   "0sl br bq|2bk|2r|2aq|2aw|2eq|2ar|2ao|2cf|1ck ii|2on|2lw|2pj|2pk|2mg|2nu|2mu|2ng|2pl|2ei",
   "0br bq gy ex|1bk gy ex|1r gy ex|1aq gy ex|1aw gy ex|1eq gy ex|1ar gy ex|1ao gy ex|1cf gy ex",
   "0ck ii gy ex|1on gy ex|1lw gy ex|1pj gy ex|1pk gy ex|1mg gy ex|1nu gy ex|1mu gy ex|1ng gy ex",
   "1pl gy ex|1ei gy ex|0sl ek k a A|=25|0ch ek c a A|=25|2k a A|=25|1br do|0hs ch ck on|3lw|3pj",
   "3pk|3mg|3nu|3mu|3ng|3pl|3ei|0l ch br bq|3bk|3r|3aq|3aw|3eq|3ar|3ao|3cf|2ck ii|0hs ch br do",
   "0wg DRAWINGS bn x|2aj x|2bn p|2aj p|2bn dm ig x|2aj dm ig x|2bn dm ig p|2aj dm ig p",
   "2bn jm ig x|2aj jm ig x|2bn jm ig p|2aj jm ig p|2bn bz s g|2bz bn s g aj|3aj s g bn|2aj bz s g",
   "2bn bz s n|2bz bn s n aj|3aj s n bn|2aj bz s n|2bn UP s g|2UP bn s g aj|3aj s g bn|2aj UP s g",
   "2bn UP s n|2UP bn s n aj|3aj s n bn|2aj UP s n|2bn p s g|2p bn s g aj|2UP aj s g bz bn",
   "2bz aj s g UP bn|2p aj s g bn|2bz bn s g UP aj|2UP bn s g bz aj|2aj p s g|2bn p s n",
   "2p bn s n aj|2UP aj s n bz bn|2bz aj s n UP bn|2p aj s n bn|2bz bn s n UP aj|2UP bn s n bz aj",
   "2aj p s n|2bn bz s x|2n aj s g bz bn|2g aj s n bz bn|2bz bn s x aj|3aj s x bn|2g bn s n bz aj",
   "2n bn s g bz aj|2aj bz s x|2bn UP s x|2n aj s g UP bn|2g aj s n UP bn|2UP bn s x aj|3aj s x bn",
   "2g bn s n UP aj|2n bn s g UP aj|2aj UP s x|2bn p s x|2n aj s g p bn|2g aj s n p bn",
   "2p bn s x aj|2UP aj s bz x bn|2bz aj s UP x bn|2p aj s x bn|2n UP aj s g bz bn",
   "2g UP aj s n bz bn|2n bz aj s g UP bn|2g bz aj s n UP bn|2bz bn s UP x aj|2UP bn s bz x aj",
   "2g bn s n p aj|2n bn s g p aj|2aj p s x|2bn l ig x|2aj l ig x|2bn l ig p|2aj l ig p|2l x|3p",
   "2bz bv s g l|3l s g bv|2l bz s g|2bz bv s n l|3l s n bv|2l bz s n|2UP bv s g l|3l s g bv",
   "2l UP s g|2UP bv s n l|3l s n bv|2l UP s n|2p bv s g l|3l s g bv|2l p s g|2p bv s n l",
   "3l s n bv|2l p s n|2bz bv s x l|3l s x bv|2l bz s x|2UP bv s x l|3l s x bv|2l UP s x",
   "2p bv s x l|3l s x bv|2l p s x|2bn ARC bz s g|6n|4UP s n|6g|3co cm g TO bs n|5n TO bs g|4fk|3n",
   "3UP|3g|3bz|2aj n|3UP|3g|3bz|2bn n s aj g|3UP s aj bz|2aj n s bn g|3UP s bn bz|0cm cc dp",
   "0bs bq gw dp|2ef dp|1r jn dp|1cc dp|1aw jn dp|1r ia dp|1ar jn dp|0gy dp|0n ar jn dp|1r ia dp",
   "1aw jn dp|1cc dp|1r jn dp|1bq ef dp|2gw dp|0g cc dp|0bn pm|0ba pm|0DARK pm|0cm bq gw dp",
   "0g bq gw dp|0id bs n|2g|1cm n|3s bs n s bs g|5g|4cm g s bs n|8g|2g|3s bs n|6s bs g|0w al|0y al",
   "2b ns wk|2nh w k al|0al b x wh|2p wh|2ORTHOGONAL CROSSHATCH wh|2cm n TO bs g wh|3g TO bs n wh",
   "2co CROSSHATCH wh|0w k al|0y k al|0w pi|0y pi|0w p pi|0y p pi|0w PARALLELOGRAM",
   "0y PARALLELOGRAM|0w gb ah|0y gb ah|0w gb k ah|0y gb k ah|0w ca ah|0y ca ah|0w ca k ah",
   "0y ca k ah|0w ca POINTER|0y ca POINTER|0w fx ah|0y fx ah|0w fx k ah|0y fx k ah|0w da ah",
   "0y da ah|0w da k ah|0y da k ah|0w da POINTER|0y da POINTER|0w df|0y df|2nh w k df|0FISHEYE|0kr",
   "0y am|0ev am|0am b p wh|0BULLSEYE|0w am|0am b n cc w|2g cc w|2bs cc w|2cm cc w|3g id w",
   "2ALL BUT cm n id w|0n cc w am|0g cc w am|0oc lv|1y am|0cm cc oc y am|0bs cc oc y am",
   "0cm n id xh ARC|1g id xh ARC|0bs g id xh ARC|1n id xh ARC|0cm cc am|0bs cc am|0w bs g ah|2n ah",
   "1cm n ah|2g ah|0y lv|0al b n cc w|2g cc w|2cm n co cc w|2bs g co cc w|0y al b p BISECTING fn",
   "1gb ah b cq|0gb ah b n cc w|3g cc w|0cz am|0y al b cm n id|3bs n id|4g id|3cm g id",
   "1am b cm n id|3bs n id|4g id|3cm g id|0cm n ah|1g ah|0bs n ah|0y ba al|0w ba al|0y ba k al",
   "0w ba k al|0bs g ah|0w SUN b RAYS|0CLOUD|0xw|0SNOWMAN|0COMET|0w gc|0y gc|0LIGHTNING",
   "0THUNDERSTORM|0SUN|0ASCENDING NODE|0DESCENDING NODE|0CONJUNCTION|0OPPOSITION|0w iv|0y iv",
   "0xx wg|2b sk|3X|0mh|0xw b RAIN DROPS|0HOT BEVERAGE|0y SHOGI PIECE|0w SHOGI PIECE|0SHAMROCK",
   "0as bp FLORAL ie lv|0w n ay bi|1g ay bi|0y n ay bi|1UP ay bi|1g ay bi|1bz ay bi",
   "0SKULL s CROSSBONES|0CAUTION f|0RADIOACTIVE f|0BIOHAZARD f|0CADUCEUS|0ANKH|0ORTHODOX fk|0yu wc",
   "0fk OF LORRAINE|2JERUSALEM|0gc s tr|0FARSI u|0ADI SHAKTI|0HAMMER s SICKLE|0PEACE u|0YIN yv",
   "0TRIGRAM qk HEAVEN|2LAKE|2FIRE|2THUNDER|2WIND|2rd|2pn|2qi|0WHEEL OF DHARMA|0y FROWNING cn",
   "1io cn|0w io cn|0y SUN b RAYS|0xq ef mi|0LAST ef mi|0MERCURY|0FEMALE f|0qi|0MALE f|0JUPITER",
   "0SATURN|0URANUS|0NEPTUNE|0PLUTO|0ARIES|0TAURUS|0GEMINI|0CANCER|0LEO|0VIRGO|0LIBRA|0SCORPIUS",
   "0SAGITTARIUS|0CAPRICORN|0AQUARIUS|0PISCES|0y hm sc|2od|2zg|2op|2gn|2zh|0w hm sc|2od|2zg|2op",
   "2gn|2zh|1SPADE SUIT|0y ie SUIT|1df SUIT|0w CLUB SUIT|0y SPADE SUIT|0w ie SUIT|1df SUIT",
   "0y CLUB SUIT|0HOT SPRINGS|0ef ql|0gw ql|0BEAMED gw NOTES|1rq NOTES|0MUSIC FLAT f|1NATURAL f",
   "1SHARP f|0gq SYRIAC fk|0fu SYRIAC fk|0UNIVERSAL RECYCLING u|0RECYCLING u qk TYPE-1 re",
   "3TYPE-2 re|3TYPE-3 re|3TYPE-4 re|3TYPE-5 re|3TYPE-6 re|3TYPE-7 re|3GENERIC MATERIALS",
   "0w UNIVERSAL RECYCLING u|0RECYCLED PAPER u|0PARTIALLY-RECYCLED PAPER u|0PERMANENT PAPER f",
   "0WHEELCHAIR u|0DIE FACE-1|+5|0y am b cq g|3bk cr|0w am b y cq g|3bk y cr|0ts qk yv|2YIN",
   "0DIGRAM qk GREATER yv|2LESSER YIN|3yv|2GREATER YIN|0y zi|0w zi|0HAMMER s PICK|0ANCHOR",
   "0mj SWORDS|0STAFF OF AESCULAPIUS|0SCALES|0ALEMBIC|0FLOWER|0GEAR|0STAFF OF HERMES|0ATOM u",
   "0FLEUR-DE-LIS|0rf y gc|0r LINES CONVERGING g|3n|0WARNING f|0es VOLTAGE f|0DOUBLED FEMALE f",
   "1MALE f|0INTERLOCKED FEMALE s MALE f|0MALE s FEMALE f|1b ad f|3s MALE s FEMALE f",
   "0p MALE b ad f|0x MALE b ad f|0ba y am|1w am|1k y am|0MARRIAGE u|0DIVORCE u",
   "0UNMARRIED PARTNERSHIP u|0COFFIN|0FUNERAL URN|0NEUTER|0CERES|0PALLAS|0JUNO|0VESTA|0CHIRON",
   "0w mi LILITH|0SEXTILE|0SEMISEXTILE|0QUINCUNX|0SESQUIQUADRATE|0SOCCER zj|0BASEBALL|0dx KEY",
   "0y DRAUGHTS MAN|2sc|0w DRAUGHTS MAN|2sc|0SNOWMAN WITHOUT SNOW|0SUN BEHIND CLOUD|0RAIN",
   "0w SNOWMAN|0THUNDER CLOUD s RAIN|0bl y SHOGI PIECE|1w SHOGI PIECE|0y df IN al|0dn LANES",
   "0DISABLED CAR|0OPHIUCHUS|0PICK|0CAR SLIDING|0HELMET b y fk|0ch dn LANES|0CHAINS|0NO ENTRY",
   "0eo ONE-WAY n WAY TRAFFIC|0w TWO-WAY n WAY TRAFFIC|0y TWO-WAY n WAY TRAFFIC|0w n LANE MERGE",
   "0y n LANE MERGE|0DRIVE SLOW f|0aj y fx ah|0n fs ENTRY|0dx mh|0tt co IN y am IN w al|0w TRUCK",
   "0RESTRICTED n ENTRY-1|+|0ASTRONOMICAL u qk URANUS|0aj am b ad s bk cr j|0PENTAGRAM",
   "0RIGHT-HANDED INTERLACED PENTAGRAM|0LEFT-HANDED INTERLACED PENTAGRAM|0bf PENTAGRAM",
   "0w fk ON SHIELD|0SHINTO SHRINE|0CHURCH|0CASTLE|0HISTORIC SITE|0GEAR WITHOUT HUB|1b HANDLES",
   "0MAP u qk LIGHTHOUSE|0pn|0xw ON GROUND|0FOUNTAIN|0zi IN HOLE|0FERRY|0SAILBOAT|0al aq wk|0SKIER",
   "0ICE SKATE|0ks b zj|0TENT|0rg BANK u|0HEADSTONE GRAVEYARD u|0FUEL PUMP|0CUP ON w al",
   "0y zi b x af w STRIPE|0w SAFETY tu|0cm BLADE tu|0w tu|0bs BLADE tu|0y tu|1aj sk z",
   "0iv LOCATION f|0TAPE DRIVE|0rh|0ni|0ha FIST|1kt|0VICTORY kt|0WRITING kt|0bs g PENCIL|0PENCIL",
   "0cm g PENCIL|0y NIB|0w NIB|0sk z|0aj sk z|0fy X|0aj fy X|0xx X|0aj xx X|0rf jc fk|0aj jc fk",
   "0ea cw fk|0aj ea cw fk|0ek fk|0jl y ek fk|0rf ek fk|0MALTESE fk|0gc OF DAVID|0aq is cd|1xy cd",
   "0aj aq xy cd|0aq CLUB-SPOKED cd|0w aq dw gc|0y aq dw gc|0SPARKLES|0STRESS rf y gc|0ch y gc",
   "0ea cw w gc|0w cw y gc|0rf w gc|0aj rf w gc|0nj gc|0jl y gc|0aj cd|0ea cw cd|0ao jp cd",
   "1dw w gc|2nj gc|0eq dw w gc|0ao dw RECTILINEAR w gc|0aj ao dw RECTILINEAR w gc|0lw dw w gc",
   "0nu dw cd|0is cd|0ea cw is cd|0aj is cd|0eq PETALLED w s y FLORETTE|0w FLORETTE|0y FLORETTE",
   "0ao PETALLED rf w FLORETTE|0ch ea cw ao dw gc|0aj is nj cd|0SNOWFLAKE",
   "0TIGHT TRIFOLIATE SNOWFLAKE|0aj CHEVRON SNOWFLAKE|0SPARKLE|0aj SPARKLE|0xy cd",
   "0ao is PROPELLER cd|0aj ao is PROPELLER cd|0fk z|0jl y am|0hs dx fk z|0bs g DROP-SHADOWED y al",
   "0cm g DROP-SHADOWED y al|0bs g jl y al|0cm g jl y al|0w dy z bo|0y dy z bo|1cv z bo",
   "0w df ly y X|0aj cv z u|0bn p fb|0ba p fb|0aj p fb|1bv bl du dc z bo|2du dc z bo",
   "1l bl du dc z bo|2du dc z bo|1hj bv du dc z bo|2l du dc z bo|0qa STEM up f bo|0aj cv z bo",
   "1ie cv z bo|1w ie|0bp aj w ie lv|0FLORAL ie|0bp FLORAL ie lv|0ba n bb bo|1g bb bo",
   "1FLATTENED n bb bo|2g bb bo|1da el ae bo|1ca el ae bo|0aj da el dc z bo|1ca el dc z bo",
   "1da el ae bo|1ca el ae bo|0bn n gz jo ae bo|1g gz jo ae bo|0ba n ix ae bo|1g ix ae bo",
   "0DINGBAT hs ch br bq|4bk|4r|4aq|4aw|4eq|4ar|4ao|4cf|3ck ii|1ch dq br bq|4bk|4r|4aq|4aw|4eq|4ar",
   "4ao|4cf|3ck ii|1hs ch dq br bq|5bk|5r|5aq|5aw|5eq|5ar|5ao|5cf|4ck ii|0aj WIDE-HEADED i e|1bw f",
   "1ly f|1ou f|1fp fu e|1i e|1fc fu e|0DRAFTING qu i e|0aj ROUND-TIPPED i e|0t i e|0aj t i e",
   "0ne t i e|0aj ne t i e|0w i e|0THREE-D TOP-LIGHTED i ak|1BOTTOM-LIGHTED i ak|0w i ak",
   "0aj w qa aa s i e|3an s i e|0SQUAT w i e|0aj CONCAVE-POINTED w i e|0RIGHT-SHADED y i e",
   "0LEFT-SHADED y i e|0BACK-TILTED jl y i e|0FRONT-TILTED jl y i e|0aj bs ri y i e|1cm ri y i e",
   "0qb bs ri y i e|0ix sz|0qb cm ri y i e|0ch aj y i e|0WHITE-FEATHERED i e",
   "0BLACK-FEATHERED fp fu e|1i e|1fc fu e|0aj BLACK-FEATHERED fp fu e|2i e|2fc fu e",
   "0TEARDROP-BARBED i e|0aj TEARDROP-SHANKED i e|0WEDGE-TAILED i e|0aj WEDGE-TAILED i e",
   "0OPEN-OUTLINED i e|0l ix sz|0r DIMENSIONAL el|0y ah nh k y ah|0zk|0ea hb|1ff",
   "0n S-SHAPED BAG zw|0g S-SHAPED BAG zw|0OR b cq jf|0gr gd PRECEDING hb|0ff PRECEDING gd",
   "0p fb b x ad|0me mz co|0eg ou|0me tt co|0dx kp s|2OR|0y df b ro cq|0s b cq|0ob OF OPENING an",
   "0bs g fv b cq|0cm n fv b cq|0n OUTER JOIN|0g OUTER JOIN|0gy OUTER JOIN|0cz UP jr|1bz jr",
   "0n s g l ms|3jr|1MULTIMAP|0eg g jr|1n jr|0UP jr b am j|0kr DIVIDED BY x RULE",
   "0y CONCAVE-SIDED df|3b o TICK|4i TICK|1al b o TICK|3i TICK|0me n y al ae|1g y al ae|1n el ae",
   "1g el ae|1n l el ae|1g l el ae|1n y gz jo ae|1g y gz jo ae|1n FLATTENED bb|1g FLATTENED bb",
   "0an jm e|0aa jm e|0di GAPPED am e|0ic GAPPED am e|0g e b ch bw|0eg o e|1i e|1n g e|1o l e",
   "1i l e|1n g l e|1o e km fb|1i e km fb|1o l e km fb|1i l e km fb|2SQUIGGLE e",
   "0BRAILLE PATTERN BLANK|2DOTS-1|+|2DOTS-12|2DOTS-3|2DOTS-13|2DOTS-23|2DOTS-123|2DOTS-4|2DOTS-14",
   "2DOTS-24|2DOTS-124|2DOTS-34|2DOTS-134|2DOTS-234|2DOTS-1234|2DOTS-5|2DOTS-15|2DOTS-25|2DOTS-125",
   "2DOTS-35|2DOTS-135|2DOTS-235|2DOTS-1235|2DOTS-45|2DOTS-145|2DOTS-245|2DOTS-1245|2DOTS-345",
   "2DOTS-1345|2DOTS-2345|2DOTS-12345|2DOTS-6|2DOTS-16|2DOTS-26|2DOTS-126|2DOTS-36|2DOTS-136",
   "2DOTS-236|2DOTS-1236|2DOTS-46|2DOTS-146|2DOTS-246|2DOTS-1246|2DOTS-346|2DOTS-1346|2DOTS-2346",
   "2DOTS-12346|2DOTS-56|2DOTS-156|2DOTS-256|2DOTS-1256|2DOTS-356|2DOTS-1356|2DOTS-2356",
   "2DOTS-12356|2DOTS-456|2DOTS-1456|2DOTS-2456|2DOTS-12456|2DOTS-3456|2DOTS-13456|2DOTS-23456",
   "2DOTS-123456|2DOTS-7|2DOTS-17|2DOTS-27|2DOTS-127|2DOTS-37|2DOTS-137|2DOTS-237|2DOTS-1237",
   "2DOTS-47|2DOTS-147|2DOTS-247|2DOTS-1247|2DOTS-347|2DOTS-1347|2DOTS-2347|2DOTS-12347|2DOTS-57",
   "2DOTS-157|2DOTS-257|2DOTS-1257|2DOTS-357|2DOTS-1357|2DOTS-2357|2DOTS-12357|2DOTS-457",
   "2DOTS-1457|2DOTS-2457|2DOTS-12457|2DOTS-3457|2DOTS-13457|2DOTS-23457|2DOTS-123457|2DOTS-67",
   "2DOTS-167|2DOTS-267|2DOTS-1267|2DOTS-367|2DOTS-1367|2DOTS-2367|2DOTS-12367|2DOTS-467",
   "2DOTS-1467|2DOTS-2467|2DOTS-12467|2DOTS-3467|2DOTS-13467|2DOTS-23467|2DOTS-123467|2DOTS-567",
   "2DOTS-1567|2DOTS-2567|2DOTS-12567|2DOTS-3567|2DOTS-13567|2DOTS-23567|2DOTS-123567|2DOTS-4567",
   "2DOTS-14567|2DOTS-24567|2DOTS-124567|2DOTS-34567|2DOTS-134567|2DOTS-234567|2DOTS-1234567",
   "2DOTS-8|2DOTS-18|2DOTS-28|2DOTS-128|2DOTS-38|2DOTS-138|2DOTS-238|2DOTS-1238|2DOTS-48|2DOTS-148",
   "2DOTS-248|2DOTS-1248|2DOTS-348|2DOTS-1348|2DOTS-2348|2DOTS-12348|2DOTS-58|2DOTS-158|2DOTS-258",
   "2DOTS-1258|2DOTS-358|2DOTS-1358|2DOTS-2358|2DOTS-12358|2DOTS-458|2DOTS-1458|2DOTS-2458",
   "2DOTS-12458|2DOTS-3458|2DOTS-13458|2DOTS-23458|2DOTS-123458|2DOTS-68|2DOTS-168|2DOTS-268",
   "2DOTS-1268|2DOTS-368|2DOTS-1368|2DOTS-2368|2DOTS-12368|2DOTS-468|2DOTS-1468|2DOTS-2468",
   "2DOTS-12468|2DOTS-3468|2DOTS-13468|2DOTS-23468|2DOTS-123468|2DOTS-568|2DOTS-1568|2DOTS-2568",
   "2DOTS-12568|2DOTS-3568|2DOTS-13568|2DOTS-23568|2DOTS-123568|2DOTS-4568|2DOTS-14568|2DOTS-24568",
   "2DOTS-124568|2DOTS-34568|2DOTS-134568|2DOTS-234568|2DOTS-1234568|2DOTS-78|2DOTS-178|2DOTS-278",
   "2DOTS-1278|2DOTS-378|2DOTS-1378|2DOTS-2378|2DOTS-12378|2DOTS-478|2DOTS-1478|2DOTS-2478",
   "2DOTS-12478|2DOTS-3478|2DOTS-13478|2DOTS-23478|2DOTS-123478|2DOTS-578|2DOTS-1578|2DOTS-2578",
   "2DOTS-12578|2DOTS-3578|2DOTS-13578|2DOTS-23578|2DOTS-123578|2DOTS-4578|2DOTS-14578|2DOTS-24578",
   "2DOTS-124578|2DOTS-34578|2DOTS-134578|2DOTS-234578|2DOTS-1234578|2DOTS-678|2DOTS-1678",
   "2DOTS-2678|2DOTS-12678|2DOTS-3678|2DOTS-13678|2DOTS-23678|2DOTS-123678|2DOTS-4678|2DOTS-14678",
   "2DOTS-24678|2DOTS-124678|2DOTS-34678|2DOTS-134678|2DOTS-234678|2DOTS-1234678|2DOTS-5678",
   "2DOTS-15678|2DOTS-25678|2DOTS-125678|2DOTS-35678|2DOTS-135678|2DOTS-235678|2DOTS-1235678",
   "2DOTS-45678|2DOTS-145678|2DOTS-245678|2DOTS-1245678|2DOTS-345678|2DOTS-1345678|2DOTS-2345678",
   "2DOTS-12345678|0i ip e b p ad|4l p ad|0o l e b p ad|0i l e b p ad|0n g l e b p ad",
   "0i ip e km fb|0o l e km fb|0i l e km fb|0aa e b x ad|0an e b x ad|1dm e|0aa dm e|0o l ig e",
   "0i l ig e|0o dm ig e|0i dm ig e|1ip dm ig e|1e b ev STEM|0an e TO fb|0aa e TO fb",
   "0i e b he b p ad|5l p ad|1ip e b he|5b p ad|6l p ad|0o xz|0i xz|0o l xz|0i l xz|0o e TO w df",
   "0i e TO w df|0o e km fb TO w df|0i e km fb TO w df|0fc gq s fp fu e|1fu s fp gq e|1gq e b be",
   "1fu e b be|0fp fu e b be|1gq e b be|0fc gq e s fc fu e|1fu e s fp fu e|0fp fu e s fp gq e",
   "1gq e s fc gq e|0mz co dn tt co|0tt co dn mz co|0fp fu e dn fc fu e|0fc fu e dn fp fu e",
   "0tt co dn fc fu e|0mz co dn fp fu e|0fc fu e dn fc gq e|1gq e dn fc fu e|0pd e ay DIRECTLY g",
   "0e ay i THEN CURVING an|5aa|2aa THEN CURVING o|5i|0RIGHT-SIDE ARC ic e|0LEFT-SIDE ARC di e",
   "0pu ARC di e|0ft ARC di e|0pu ARC ic e b ly|2di e b bw|0bs g SEMICIRCULAR ic e",
   "1n SEMICIRCULAR di e|0di fs am e|0ic fs am e|0i e j ey o e|0o e j ey i e|0ey i e j o e",
   "0i e b bw v|0o e b bw v|0i e mk X|0n g e mk k am|0an ip e km k am|0n dg UP g dg bz cb",
   "2bz g dg UP cb|0UP dg g bz dg n cb|2n bz dg g cb|0n dg UP g dg UP cb|0UP dg g bz dg g cb",
   "0n dg bz g dg bz cb|0UP dg n bz dg n cb|0o cb b dg UP TO fb|0i cb b dg UP TO fb",
   "0an cb b dg g TO fb|0aa cb b dg g TO fb|0o cb b dg bz TO fb|0i cb b dg bz TO fb",
   "0an cb b dg n TO fb|0aa cb b dg n TO fb|0o cb b dg UP km fb|0i cb b dg UP km fb",
   "0an cb b dg g km fb|0aa cb b dg g km fb|0o cb b dg bz km fb|0i cb b dg bz km fb",
   "0an cb b dg n km fb|0aa cb b dg n km fb|0o cb b dg UP j o cb b dg bz",
   "0an cb b dg n rj an cb b dg g|0i cb b dg UP j i cb b dg bz|0aa cb b dg n rj aa cb b dg g",
   "0o cb b dg UP j i cb b dg UP|4bz j i cb b dg bz|0i cb b dg UP j o cb b dg UP",
   "4bz j o cb b dg bz|0o cb b dg UP j eg ig|4bz v eg ig|0i cb b dg UP j eg ig|4bz v eg ig",
   "0an cb b dg n rj aa cb b dg g|0aa cb b dg n rj an cb b dg g|0g l e b ns qx|0fg f j i e",
   "0cl cj j i e|0o e j cl cj|0i e j cl cj|3ki bj TO|0at j o e|0o e mk at|0ai j i e|0hb j i e",
   "0o e mk hb|0ff j o e|0n FISH he|0g FISH he|0UP FISH he|0bz FISH he|0dm p fb zw|0Z ph SPOT",
   "2TYPE hl|0n y ix ae|0g y ix ae|0n y bb|0g y bb|0Z ph n xs ae|2g xs ae|2n BINDING ae",
   "2g BINDING ae|0n al ae b ez|0g al ae b ez|0n al ae b TICK IN pu fv|0g al ae b TICK IN ft fv",
   "0n al ae b TICK IN ft fv|0g al ae b TICK IN pu fv|0n el ae b cq|0g el ae b cq|0n ARC at ae",
   "0g ARC ai ae|0l n ARC ai ae|1g ARC at ae|0n w gz jo ae|0g w gz jo ae|0ev FENCE|0p ul fn",
   "0xr el OPENING n|0g el gu b al|0xr g el b cq|0el b S jf|0dk el|0SPHERICAL el OPENING n|3UP",
   "0bl el|0as el|0el b ez|0as el b ez|0nt el OPENING UP|3bz|0xr el b ea ARM ENDING IN e ay UP s g",
   "9UP s n|9bz s g|9bz s n|9g s UP|9n s UP|9g s bz|9n s bz|0as EMPTY SET|0EMPTY SET b kq|3k am j",
   "3g e j|3n e j|0am b x fb|0ch p fb|1pf|1gr gd|1zk|0am DIVIDED BY x fb s pu cc DIVIDED BY p fb",
   "1b SUPERIMPOSED X|0ch ANTICLOCKWISE-ROTATED ou f|0UP e mk am|0ch y lv|1lv|1at|1ai",
   "0am b k am TO qn g|2bk x STROKES TO qn g|0dx mz co nz|1tt co nz|1cd|1k am|1al",
   "0bk JOINED SQUARES|0ah b cq j|2ez|0S IN ah|0ah b SERIFS AT ft|0g ah j n ah|0n ah rj p fb",
   "0p fb rj g ah|0BOWTIE b n cc w|2g cc w|0w BOWTIE|0ap b n cc w|2g cc w|0y HOURGLASS",
   "0w HOURGLASS|0n WIGGLY FENCE|0g WIGGLY FENCE|0n l WIGGLY FENCE|0g l WIGGLY FENCE",
   "0INCOMPLETE to|0TIE cs to|0to NEGATED b p fb|0DOUBLE-ENDED MULTIMAP|0al b CONTOURED OUTLINE",
   "0INCREASES AS|0SHUFFLE ko|0fg f s gv pf|5b cl j|0IDENTICAL TO s gv pf|0GLEICH STARK",
   "0THERMODYNAMIC|0fx ah b n cc w|3g cc w|0w df b bz e|1kr|0y am b bz e|0w am b bz e",
   "0ERROR-BARRED y al|1w al|1y df|1w df|1y am|1w am|0RULE-DELAYED|0gr gd cj|0gd b kq",
   "0gr gd b x ad|0BIG gd|1gr gd|0l bw|0dm bw|0da qa el ae|0ca qa el ae|0TINY|0MINY",
   "0N-ARY ch cq cj|2bw cj|2ap cj|1nf cj b cq|4bw|1al ej cj|2nf cj|0bk kp s cj|2OR cj|0N-ARY ap cj",
   "0MODULO bk SUM|0SUMMATION b gm|0jm gm cj|0FINITE PART gm|0gm b l ad|1AVERAGE b nz",
   "0CIRCULATION FUNCTION|0di INTEGRATION|0fn INTEGRATION b RECTANGULAR PATH AROUND POLE",
   "3SEMICIRCULAR PATH AROUND POLE|2kz INCLUDING qn POLE|0gm AROUND A qu cj|0QUATERNION gm cj",
   "0gm b o e b be|2ap f|2ej|2nf|2kq|2ez|0JOIN|0cz n ah cj|0Z ph SCHEMA COMPOSITION|3PIPING",
   "3PROJECTION|0bw f b k am j|3au eu j|3cl j|3cq v|3cl v|3oy bk|3w ah|0ly f b du j|3cq v|3tt cr",
   "3mz cr|0bw f IN n cc am|3g cc am|0VECTOR OR fk ko|0fy f b cq j|3ez|0sw ko b ft fs|0SMASH ko",
   "0fy f IN n cc am|3g cc am|0ch fy f b au eu|0fy f IN l am|0ch ou f|0bw f IN ah|0ly f IN ah",
   "0fy f IN ah|0INTERIOR ko|0RIGHTHAND INTERIOR ko|0Z ph RELATIONAL COMPOSITION",
   "0AMALGAMATION OR COPRODUCT|0ej b cq|0nf b ly f|2kq|0ej b kq|2kp s|0nf b kp OR|1j ej|0ej j nf",
   "0nf j fb j ej|0ej j fb j nf|0nf rj s JOINED b nf|0ej rj s JOINED b ej|0fs nf b SERIFS",
   "1ej b SERIFS|0l al ej|2nf|0fs nf b SERIFS s SMASH ko|0kp s b cq j|1OR b cq j|0l kp s|2OR",
   "0bk INTERSECTING kp s|3OR|0SLOPING cz OR|2s|0kp OR OVERLAPPING kp s|1s b af STEM|1OR b af STEM",
   "1s b x ig|1OR b x ig|1s b l kq|3ez|3l ez|0k VEE b ez|0kp OR b l kq|4ez",
   "0Z ph DOMAIN ANTIRESTRICTION|2RANGE ANTIRESTRICTION|0fg f b cq v|0IDENTICAL b cq j",
   "0dm x fb b l p ad|4dm p ad|0cl cj b cq j|3mz cr|0tv ly tv|0CONGRUENT b cq j|0fg b cd",
   "0ki bj TO b au eu|0oo bj OR bj TO|0fg f j bw f|0bw f j fg f|0fg f j cl cj|0l hl bj",
   "0bk CONSECUTIVE fg SIGNS|0r CONSECUTIVE fg SIGNS|0fg f b bk cr j s bk cr v|0gh b aq cr j",
   "0at b am jf|0ai b am jf|0at b dy z j|0ai b dy z j|0at OR gv bj TO|0ai OR gv bj TO",
   "0at OR gv bj TO b cq jf|0ai OR gv bj TO b cq jf|0at OR gv bj TO b cq j|0ai OR gv bj TO b cq j",
   "0at OR gv bj TO b cq j g|0ai OR gv bj TO b cq j n|0at OR vw|0ai OR vw|0at s oe kz bj TO",
   "0ai s oe kz bj TO|0at s kz vw|0ai s kz vw|0at j of bj j ai|0ai j of bj j at|0at j tv OR bj",
   "0ai j tv OR bj|0at j tv j ai|0ai j tv j at|0at j ai j of bj|0ai j at j of bj",
   "0at j gv bj j ai j gv bj|0ai j gv bj j at j gv bj|0gv bj TO OR at|4ai|4at b cq jf|4ai b cq jf",
   "0of bj TO OR at|4ai|1gv bj TO OR at|5ai|0tv OR at|2ai|1j at j fg f|2ai j fg f|0l NESTED at|2ai",
   "2at b ez|0ai OVERLAPPING at|1rj at|0at fs BY mb|0ai fs BY mb|0at fs BY mb j gv bj",
   "0ai fs BY mb j gv bj|0SMALLER THAN|0LARGER THAN|0SMALLER THAN OR bj TO|0LARGER THAN OR bj TO",
   "0fg f b BUMPY j|0jj j oe fg f|0jk j oe fg f|0jj j oe kz bj TO|0jk j oe kz bj TO|0jj j fg f",
   "0jk j fg f|0jj j kz bj TO|0jk j kz bj TO|0jj j ki bj TO|0jk j ki bj TO|0jj j kz ki bj TO",
   "0jk j kz ki bj TO|0l jj|1jk|0hb b cq|0ff b cq|0hb b bw f v|0ff b bw f v|0hb b fy f v",
   "0ff b fy f v|0hb OF OR bj TO b cq j|0ff OF OR bj TO b cq j|0hb OF j fg f|0ff OF j fg f",
   "0hb OF j cl cj|0ff OF j cl cj|0hb OF j ki bj TO|0ff OF j ki bj TO|0hb OF j kz bj TO",
   "0ff OF j kz bj TO|0al n ea wg cj|1g ea wg cj|0fs hb|1ff|1hb OR bj TO|1ff OR bj TO|0hb j ff",
   "0ff j hb|0hb j hb|0ff j ff|1rj hb|2s JOINED BY ig b hb|0ob OF OPENING aa|0PITCHFORK b TEE pu",
   "0TRANSVERSAL ej|0FORKING|0NONFORKING|0ey n jr|1bz jr|1UP jr|0zk b S|0p fb dm g ms|0l p fb n ms",
   "0p fb l n ms|0l p fb l n ms|0eg ig km n MEMBER OF l p|0ey bz jr b kq|1UP jr b ez|3j ey bz jr",
   "0l bz jr|1UP jr|1ad kz f|0as l ad kz f|0DOES kz DIVIDE b as NEGATION nz|0p fn b am j|4v",
   "0bz jr b am v|0pf b x ad|2cl cj|0dm p fb BINARY RELATION|3b x ad|1hl cj|1NESTED at|2ai",
   "0of gv at OR bj TO|2ai OR bj TO|0dm gd BINARY RELATION|0cz dm p fb cj|0l gd cj|0y p fb",
   "0N-ARY y p fb|0fc fu y e|1gq y e|0fp fu y e|1gq y e|0n g y e|0o w e|0an w e|0aa w e|0fc fu w e",
   "1gq w e|0fp fu w e|1gq w e|0n g w e|0UP bz w e|0i e b TIP aa|4an|0o e b TIP aa|4an",
   "0al b pu cc w|2ft cc w|2cm g co cc w|2bs n co cc w|0df b n cc w|2g cc w|2pu cc w|2ft cc w",
   "0ev al|0w cz al|0y cz al|0w lq k al|0y lq k al|0w ya|0y ya|1HEXAGON|0w HEXAGON|0x w HEXAGON",
   "0w cz am|1ba df|0y ba df|0w ba kr|0y ba kr|0w k df|2kr|0y k kr|0w x ELLIPSE|0y x ELLIPSE",
   "0w p ELLIPSE|0y p ELLIPSE|0n e b k am|0r o kn|0n e b ch bw|0eg o SQUIGGLE e|0o ip e b p ad",
   "4l p ad|3km fb|2dm ig e|1e b ev STEM|3he b p ad|5l p ad|1ip e b he|5b p ad|6l p ad|1e mk X",
   "0pd e ay DIRECTLY n|0fg f j o e|0gr cl cj j o e|0o e j gr ki bj TO|0i e mk ai|3ff|0o jm e",
   "0i jm e|0gr cl cj j i e|0i e j gr ki bj TO|0cl cj j o e|0o e j ki bj TO|3gr cl cj",
   "0i e j gr cl cj|0aa t ul e|0ey gv fc e|1BACKSLANTED fp e|0y ba gc|0w k gc|0y k gc|0w ca ya",
   "0y ca ya|0aj cz am|1OVAL b OVAL jf|1am b am jf|2|1ch mh|0gv fc e b HOOKED qx",
   "0BACKSLANTED fp e b HOOKED he|0gv fc e b x he|0BACKSLANTED fp e b x he|0lc e ay aa THEN fc fu",
   "0ey lc e ay aa THEN fc fu|0o t e|0an t e|0i t e|0aa t e|0n g t e|0UP bz t e|0fc gq t e|1fu t e",
   "0fp fu t e|1gq t e|0o t ne e|0an t ne e|0i t ne e|0aa t ne e|0ic t ea am e|0di t ea am e",
   "0o t e TO fb|0an t e TO fb|0i t e TO fb|0aa t e TO fb|@2B76 0fc gq t e TO fb|1fu t e TO fb",
   "0fp fu t e TO fb|1gq t e TO fb|0o t e b l x ad|0an t e b l x ad|0i t e b l x ad",
   "0aa t e b l x ad|0x TAB KEY|0p TAB KEY|0o t e cs i t e|0an t e o OF aa t e|0i t e cs o t e",
   "0aa t e o OF an t e|0o t ux kn|0an t ux kn|0i t ux kn|0aa t ux kn|0o w ch y e|0an w ch y e",
   "0i w ch y e|0aa w ch y e|0di t g yb e|2ft yb e|2n yb e|2pu yb e|0RETURN n|1g|0NEWLINE n|1g",
   "0aq fv kn CIRCLING di|0i w e|@2B97 0u qk TYPE A ELECTRONICS|0THREE-D TOP-LIGHTED o db ak",
   "1RIGHT-LIGHTED an db ak|1TOP-LIGHTED i db ak|1LEFT-LIGHTED aa db ak|0w o db ak|1an db ak",
   "1i db ak|1aa db ak|0aa t e b eg TIP o|6i|0an t e b eg TIP o|6i|0o t e b eg TIP an",
   "0i t e b eg TIP an|0o t e b eg TIP aa|0i t e b eg TIP aa|0w qa aa s o e|4i e|2an s o e|4i e",
   "2o s an e|2i s an e|2o s aa e|2i s aa e|0RIBBON e bz n|3g|2UP n|3g|2n UP|2g UP|2n bz|2g bz",
   "0an y e km fb b x fb|0UP ak IN A pi wg|0OVERLAPPING y SQUARES|2s w SQUARES|1w SQUARES",
   "0xx wg b bn X|0ch X|1lh X|0w al ro|1df ro|0bl w ya|0x w OCTAGON|0w OCTAGON|1ba gb ah ro",
   "2fx ah ro|2da ah ro|2ca ah ro|0NEPTUNE d bk|0pu cc w am|0ft cc w am|0bn aq dw w CUSP",
   "0bp bn aq dw w CUSP|0y aq dw CUSP|0bp y aq dw CUSP|0al POSITION mo|0UNCERTAINTY f|0GROUP z",
   "0PLUTO d bk|2r|2aq|2aw|0TRANSPLUTO|0PROSERPINA|0ASTRAEA|0HYGIEA|0PHOLUS|0NESSUS|0y mi SELENA",
   "0w df ON fk|0TRUE bn mi ARTA|0CUPIDO|0HADES|0ZEUS|0KRONOS|0APOLLON|0ADMETOS|0VULCANUS",
   "0POSEIDON|0n cc w gc|0g cc w gc|0gc b n cc w|2g cc w|0o ip e b ah yc|0an ip e b ah yc",
   "0i ip e b ah yc|0aa ip e b ah yc|0ERIS d bq|2bk|0SEDNA|0RUSSIAN ASTROLOGICAL u VIGINTILE",
   "3NOVILE|3QUINTILE|3BINOVILE|3SENTAGON|3TREDECILE|0fg f b to v|0UNITED u|0SEPARATED u",
   "0DOUBLED u|0PASSED u|0as g el|0HELLSCHREIBER PAUSE u|0GLAGOLITIC c a AZU|3BUKY|3VEDE|3GLAGOLI",
   "3DOBRO|3YESTU|3ZHIVETE|3DZELO|3ZEMLJA|3IZHE|3q IZHE|3I|3DJERVI|3KAKO|3LJUDIJE|3MYSLITE|3NASHI",
   "3ONU|3POKOJI|3RITSI|3SLOVO|3TVRIDO|3UKU|3FRITU|3HERU|3OTU|3PE|3SHTA|3TSI|3CHRIVI|3jb|3YERU",
   "3YERI|3YATI|3SPIDERY HA|3YU|3k zr|5b he|3YO|3wl k zr|3BIG zr|3wl BIG zr|3FITA|3IZHITSA",
   "3SHTAPIC|3TROKUTASTI A|3LATINATE MYSLITE|3CAUDATE CHRIVI|1k a AZU|3BUKY|3VEDE|3GLAGOLI|3DOBRO",
   "3YESTU|3ZHIVETE|3DZELO|3ZEMLJA|3IZHE|3q IZHE|3I|3DJERVI|3KAKO|3LJUDIJE|3MYSLITE|3NASHI|3ONU",
   "3POKOJI|3RITSI|3SLOVO|3TVRIDO|3UKU|3FRITU|3HERU|3OTU|3PE|3SHTA|3TSI|3CHRIVI|3jb|3YERU|3YERI",
   "3YATI|3SPIDERY HA|3YU|3k zr|5b he|3YO|3wl k zr|3BIG zr|3wl BIG zr|3FITA|3IZHITSA|3SHTAPIC",
   "3TROKUTASTI A|3LATINATE MYSLITE|3CAUDATE CHRIVI|0ek c a L b l fb|-|1c a L b af cl|3P b ad",
   "3R b he|1k a A b ad|3T b co ad|1c a H b fm|-|1c a K b fm|-|1c a Z b fm|-|1c a hf|3M b be|3bl A",
   "4hf|1k a V b g be|1c a W b be|-|3V b ow|1c a cc H|-|3TAILLESS wu|3E b NOTCH|3bl R b he",
   "3O b hj de jf|1a k c bl E|1oy k a J|0dt a c V|0ek c a S b SWASH he|3Z b SWASH he|0lt c a ALFA",
   "-|1c a VIDA|-|1c a kh|-|1c a DALDA|-|1c a EIE|-|1c a SOU|-|1c a ZATA|-|1c a HATE|-|1c a THETHE",
   "-|1c a IAUDA|-|1c a KAPA|-|1c a LAULA|-|1c a MI|-|1c a NI|-|1c a KSI|-|1c a O|-|1c a PI|-",
   "1c a RO|-|1c a SIMA|-|1c a TAU|-|1c a UA|-|1c a FI|-|1c a KHI|-|1c a PSI|-|1c a OOU|-",
   "1c a DIALECT-P cx|-|1c a qo lt te|-|1c a ok EIE|-|1c a DIALECT-P KAPA|-|1c a DIALECT-P NI|-",
   "1c a ok NI|-|1c a qo lt OOU|-|1c a SAMPI|-|1c a mj SHEI|-|1c a qo lt SHEI|-|1c a qo lt ESH|-",
   "1c a AKHMIMIC KHEI|-|1c a DIALECT-P HORI|-|1c a qo lt HORI|-|1c a qo lt HA|-|1c a L-SHAPED HA",
   "-|1c a qo lt HEI|-|1c a qo lt HAT|-|1c a qo lt GANGIA|-|1c a qo lt DJA|-|1c a qo lt SHIMA|-",
   "1c a qo NUBIAN SHIMA|-|1c a qo NUBIAN NGI|-|1c a qo NUBIAN NYI|-|1c a qo NUBIAN WAU|-|1u KAI",
   "2MI RO|2PI RO|2STAUROS|2TAU RO|2KHI RO|2SHIMA SIMA|1c a ok SHEI|-|1c a ok GANGIA|-|1cg NI j",
   "2SPIRITUS ASPER|3LENIS|1c a BOHAIRIC KHEI|-|@2CF9 1qo NUBIAN gy ex|3DIRECT dy z|3INDIRECT dy z",
   "3VERSE wm|1gl bq cc|1gy ex|1MORPHOLOGICAL wm|0xj k a AN|3BAN|3GAN|3DON|3EN|3VIN|3ZEN|3TAN|3IN",
   "3KAN|3LAS|3MAN|3NAR|3ON|3PAR|3ZHAR|3RAE|3SAN|3TAR|3UN|3PHAR|3KHAR|3GHAN|3QAR|3lb|3CHIN|3CAN",
   "3JIL|3CIL|3CHAR|3XAN|3JHAN|3HAE|3HE|3HIE|3WE|3HAR|3HOE|@2D27 3YN|@2D2D 3AEN",
   "@2D30 0TIFINAGH a YA|2YAB|2YABH|2YAG|2YAGHH|2BERBER ACADEMY YAJ|2YAJ|2YAD|2YADH|2YADD|2YADDH",
   "2YEY|2YAF|2YAK|2yd YAK|2YAKHH|2YAH|2BERBER ACADEMY YAH|2yd YAH|2YAHH|2YAA|2YAKH|2yd YAKH|2YAQ",
   "2yd YAQ|2YI|2YAZH|2AHAGGAR YAZH|2yd YAZH|2YAL|=2|2yd YAGN|3yv|2YAP|2YU|2YAR|2YARR|2YAGH",
   "2yd YAGH|2AYER YAGH|2YAS|2YASS|2YASH|2YAT|2YATH|2YACH|2YATT|2YAV|=|2YAY|=|2TAWELLEMET YAZ",
   "2YAZZ|2YE|2YO|@2D6F 1dt a LABIALIZATION z|1cy z|@2D7F 1en ww|0ETHIOPIC hh LOA|2MOA|2ROA|2SOA",
   "2SHOA|2BOA|2TOA|2COA|2NOA|2NYOA|2gf OA|2ZOA|2DOA|2DDOA|2JOA|2THOA|2CHOA|2PHOA|2POA|2GGWA|2GGWI",
   "2GGWEE|2GGWE|@2DA0 2pv|2SSU|2SSI|2SSAA|2SSEE|2SSE|2SSO|@2DA8 2CCA|2CCU|2CCI|2CCAA|2CCEE|2CCE",
   "2CCO|@2DB0 2ZZA|2ZZU|2ZZI|2ZZAA|2ZZEE|2ZZE|2ZZO|@2DB8 2CCHA|2CCHU|2CCHI|2CCHAA|2CCHEE|2CCHE",
   "2CCHO|@2DC0 2QYA|2QYU|2QYI|2QYAA|2QYEE|2QYE|2QYO|@2DC8 2KYA|2KYU|2KYI|2KYAA|2KYEE|2KYE|2KYO",
   "@2DD0 2XYA|2XYU|2XYI|2XYAA|2XYEE|2XYE|2XYO|@2DD8 2GYA|2GYU|2GYI|2GYAA|2GYEE|2GYE|2GYO",
   "@2DE0 0cg iq a BE|3VE|3GHE|3DE|3ZHE|3ZE|3KA|3EL|=2|3O|3PE|3ER|=|3TE|3HA|3TSE|3CHE|3jb|3SHCHA",
   "3FITA|3ES-TE|3A|3IE|3DJERV|3MONOGRAPH UK|3YAT|3YU|3ln A|3dd zr|3BIG zr|3ln BIG zr|0g el ml um",
   "2ev ml um|0n ml ae|0g ml ae|0n ev ml ae|0g ev ml ae|0ha INTERPOLATION um|1ev INTERPOLATION um",
   "0ev zl um|0n zl ae|0g zl ae|0ha al|0n ha OMISSION ae|0g ha OMISSION ae|0EDITORIAL CORONIS",
   "0PARAGRAPHOS|0FORKED PARAGRAPHOS|0as FORKED PARAGRAPHOS|0HYPODIASTOLE|0ev OBELOS|0aa ANCORA",
   "0an ANCORA|0ev ca el|0l nt og|0bf ra|0PALM BRANCH|0og b bc|0cl b de j|0n hj PARAPHRASE ae",
   "0g hj PARAPHRASE ae|0cl b cq j|3v|0n p fb b QUILL|0g p fb b QUILL|0pu n cc ae|1g cc ae",
   "0ft n cc ae|1g cc ae|0n na U ae|0g na U ae|0n l bb|0g l bb|0bk cr cs bq cq az",
   "0bq cq cs bk cr az|0dx aq cq az|0aw cq z|0as dy z|0p cl|0de qu|0ur cy af cq|0bl du|0ha cq|1du",
   "0bl iu|0DAGGER b n GUARD|2g GUARD|0bl DAGGER|0pu cc ge f|0TWO-EM ig|0THREE-EM ig",
   "0STENOGRAPHIC gy ex|0p eq cr|0WIGGLY p fn|0CAPITULUM|0l og|0as du|0l LOW-REVERSED-9 dc z",
   "0ig b n UPTURN|0l SUSPENSION z|0bf hj KAVYKA|3b KAVYKA j|0hj KAVYKA|2b cq|0l STACKED du|0ev gd",
   "0dm DAGGER|0MEDIEVAL du|0PARAGRAPHUS z|0PUNCTUS ELEVATUS z|0CORNISH VERSE wm",
   "0fk PATTY b g CROSSBAR|3n CROSSBAR|0TIRONIAN f c ET|0MEDIEVAL cv z|1dy z|0n al ae b ad",
   "0g al ae b ad|0n al ae b l ad|0g al ae b l ad|0pu cc n bb|2g bb|0ft cc n bb|2g bb|0nt og",
   "@2E80 0CJK RADICAL REPEAT|2CLIFF|2ye bq|3bk|3r|2ks|2wg|2TABLE|2KNIFE bq|3bk|2DIVINATION|2SEAL",
   "2k bq|3bk|2LAME bq|3bk|3r|3aq|2SNAKE|2THREAD|2SNOUT bq|3bk|2ie bq|3bk|2kt|2RAP|@2E9B 2CHOKE",
   "2SUN|2mi|2DEATH|2MOTHER|2CIVILIAN|2rd bq|3bk|2FIRE|2PAW bq|3bk|2yf cc TREE TRUNK|2COW|2DOG",
   "2JADE|2BOLT OF CLOTH|2EYE|2SPIRIT bq|3bk|2BAMBOO|2SILK|2fe SILK|2NET bq|3bk|3r|3aq|2MESH",
   "2SHEEP|2RAM|2EWE|2qo|2BRUSH bq|3bk|2MEAT|2MORTAR|2GRASS bq|3bk|3r|2TIGER|2CLOTHES|2gq bq|3bk",
   "2fe SEE|2yf ov|2ov|2fe yg|3jo|2FOOT|2fe CART|2yf WALK|2WALK bq|3bk|2CITY|2fe GOLD|2eg bq|3bk",
   "2fe eg|3GATE|2MOUND bq|3bk|2RAIN|2BLUE|2fe TANNED LEATHER|3po|3WIND|3FLY|2EAT bq|3bk|3r",
   "2fe EAT|2qx|2fe yh|2BONE|2GHOST|2fe FISH|3BIRD|3SALT|2yf WHEAT|3YELLOW|2fe FROG|2tw EVEN",
   "2fe EVEN|2tw TOOTH|2fe TOOTH|2tw uy|2fe uy|2TURTLE|2tw TURTLE|2fe TURTLE",
   "@2F00 0KANGXI RADICAL bq|2fn|2cq|2nz|2ye|2be|2bk|2LID|2MAN|2LEGS|2ENTER|2ao|2bz wg|2COVER|2ICE",
   "2TABLE|2ea wg|2KNIFE|2POWER|2WRAP|2SPOON|2g ea wg|2HIDING ENCLOSURE|2ii|2DIVINATION|2SEAL",
   "2CLIFF|2PRIVATE|2AGAIN|2ku|2ENCLOSURE|2qi|2SCHOLAR|2GO|3SLOWLY|2EVENING|2BIG|2WOMAN|2CHILD",
   "2ROOF|2INCH|2k|2LAME|2CORPSE|2SPROUT|2pn|2RIVER|2WORK|2ONESELF|2TURBAN|2DRY|2ey THREAD",
   "2ev CLIFF|2eg STRIDE|2bk yi|2SHOOT|2BOW|2SNOUT|2BRISTLE|2STEP|2ie|2HALBERD|2DOOR|2kt|2BRANCH",
   "2RAP|2hn|2DIPPER|2AXE|2al|2kz|2SUN|2SAY|2mi|2TREE|2LACK|2ex|2DEATH|2WEAPON|2DO kz|2COMPARE",
   "2FUR|2CLAN|2STEAM|2rd|2FIRE|2CLAW|2FATHER|2l X|2cc TREE TRUNK|2SLICE|2FANG|2COW|2DOG|2PROFOUND",
   "2JADE|2MELON|2TILE|2SWEET|2LIFE|2USE|2FIELD|2BOLT OF CLOTH|2SICKNESS|2ev TENT|2y|2SKIN|2oq",
   "2EYE|2SPEAR|2e|2STONE|2SPIRIT|2TRACK|2GRAIN|2CAVE|2STAND|2BAMBOO|2RICE|2SILK|2JAR|2NET|2SHEEP",
   "2FEATHER|2qo|2s|2PLOW|2EAR|2BRUSH|2MEAT|2MINISTER|2SELF|2ARRIVE|2MORTAR|2yj|2OPPOSE|2BOAT",
   "2STOPPING|2COLOR|2GRASS|2TIGER|2INSECT|2BLOOD|2WALK ENCLOSURE|2CLOTHES|2gq|2SEE|2ov|2yg",
   "2VALLEY|2BEAN|2PIG|2BADGER|2jo|2RED|2RUN|2FOOT|2BODY|2CART|2BITTER|2MORNING|2WALK|2CITY|2WINE",
   "2DISTINGUISH|2VILLAGE|2GOLD|2eg|2GATE|2MOUND|2SLAVE|2ey TAILED BIRD|2RAIN|2BLUE|2WRONG|2cn",
   "2LEATHER|2TANNED LEATHER|2LEEK|2nd|2po|2WIND|2FLY|2EAT|2qx|2FRAGRANT|2yh|2BONE|2TALL|2HAIR",
   "2FIGHT|2SACRIFICIAL WINE|2CAULDRON|2GHOST|2FISH|2BIRD|2SALT|2DEER|2WHEAT|2HEMP|2YELLOW|2MILLET",
   "2w|2EMBROIDERY|2FROG|2TRIPOD|2DRUM|2RAT|2NOSE|2EVEN|2TOOTH|2uy|2TURTLE|2FLUTE",
   "@2FF0 0fq DESCRIPTION gt n TO g|3j TO v|3n TO af s g|3j TO af s v|3gy SURROUND|3SURROUND km j",
   "5v|5n|5cm n|6g|5bs n|3OVERLAID|@3000 1kc|1du|1gy ex|0DITTO z|0rg INDUSTRIAL STANDARD u",
   "0fq ke z|1CLOSING z|1ck do|0n el ae|0g el ae|0n l el ae|0g l el ae|0n fv ae|0g fv ae",
   "0n y fv ae|0g y fv ae|0n w jy ae|0g w jy ae|0POSTAL z|0GETA z|0n gz jo ae|0g gz jo ae",
   "0n y jy ae|0g y jy ae|0n y gz jo ae|0g y gz jo ae|0n y al ae|0g y al ae|0pd ig|0as l sf dc z",
   "0l sf dc z|0hj l sf dc z|0POSTAL z cn|0HANGZHOU nq bq|2bk|2r|2aq|2aw|2eq|2ar|2ao|2cf",
   "0fq LEVEL em z|1mz em z|1DEPARTING em z|1ENTERING em z|0qy bv cq em z|1l cq em z|0WAVY ig",
   "0p KANA REPEAT z|3b qq nd z|3z cm cc|3b qq nd z cm cc|3z bs cc|0ch POSTAL z",
   "0fq TELEGRAPH fn FEED cy u|0HANGZHOU nq ii|2ei|2ib|0p fq ke z|0MASU z|0PART ALTERNATION z",
   "0fq uv mo|1cc wh kc|@3041 0tx a k A|2A|2k I|2I|2k U|2U|2k E|2E|2k O|2O|2KA|2GA|2KI|2GI|2KU|2GU",
   "2KE|2GE|2KO|2GO|2SA|2ZA|2SI|2ZI|2SU|2ZU|2SE|2ZE|2SO|2ZO|2TA|2DA|2TI|2DI|2k TU|2TU|2DU|2TE|2DE",
   "2TO|2DO|2NA|2NI|2NU|2NE|2NO|2HA|2BA|2PA|2HI|2BI|2PI|2HU|2BU|2PU|2HE|2BE|2PE|2HO|2BO|2PO|2MA",
   "2MI|2MU|2ME|2MO|2k YA|2YA|2k YU|2YU|2k YO|2YO|2RA|2RI|2RU|2RE|2RO|2k WA|2WA|2WI|2WE|2WO|2N|2VU",
   "2k KA|3KE|@3099 0cg kv qq nd z|2SEMI-VOICED nd z|0kv qq nd z|1SEMI-VOICED nd z|0tx ke z",
   "1qq ke z|1fj YORI|0kv l og|0kw a k A|2A|2k I|2I|2k U|2U|2k E|2E|2k O|2O|2KA|2GA|2KI|2GI|2KU",
   "2GU|2KE|2GE|2KO|2GO|2SA|2ZA|2SI|2ZI|2SU|2ZU|2SE|2ZE|2SO|2ZO|2TA|2DA|2TI|2DI|2k TU|2TU|2DU|2TE",
   "2DE|2TO|2DO|2NA|2NI|2NU|2NE|2NO|2HA|2BA|2PA|2HI|2BI|2PI|2HU|2BU|2PU|2HE|2BE|2PE|2HO|2BO|2PO",
   "2MA|2MI|2MU|2ME|2MO|2k YA|2YA|2k YU|2YU|2k YO|2YO|2RA|2RI|2RU|2RE|2RO|2k WA|2WA|2WI|2WE|2WO|2N",
   "2VU|2k KA|3KE|2VA|2VI|2VE|2VO|1af cq|0kv PROLONGED nd z|0kw ke z|1qq ke z|1fj KOTO",
   "@3105 0BOPOMOFO a B|2P|2M|2F|2D|2T|2N|2L|2G|2K|2H|2J|2Q|2X|2ZH|2CH|2SH|2R|2Z|2C|2S|2A|2O|2E",
   "2EH|2AI|2EI|2AU|2OU|2AN|2EN|2ANG|2ENG|2ER|2I|2U|2IU|2V|2NG|2GN|2IH|2O b cq j|2NN",
   "@3131 0qy a ut|2vm|2KIYEOK-SIOS|2zx|2vp|2vq|2uu|2vn|2zy|2tn|2vr|2vs|2xp|2ze|2zf|2vo|2zz|2PIEUP",
   "2xk|2xo|2SIOS|2SSANGSIOS|2xl|2xm|2xn|2rs|2rt|2ru|2rv|2HIEUH|2A|2AE|2YA|2YAE|2EO|2E|2YEO|2YE|2O",
   "2WA|2WAE|2OE|2YO|2U|2WEO|2WE|2WI|2YU|2EU|2YI|2I|1ss|1a SSANGNIEUN|2NIEUN-TIKEUT|2NIEUN-SIOS",
   "2NIEUN-PANSIOS|2RIEUL-KIYEOK-SIOS|2RIEUL-TIKEUT|2RIEUL-PIEUP-SIOS|2RIEUL-PANSIOS",
   "2RIEUL-YEORINHIEUH|2MIEUM-PIEUP|2MIEUM-SIOS|2MIEUM-PANSIOS|2zc|2PIEUP-KIYEOK|2PIEUP-TIKEUT",
   "2PIEUP-SIOS-KIYEOK|2tm|2PIEUP-CIEUC|2PIEUP-THIEUTH|2zd|2KAPYEOUNSSANGPIEUP|2SIOS-KIYEOK",
   "2SIOS-NIEUN|2SIOS-TIKEUT|2SIOS-PIEUP|2SIOS-CIEUC|2PANSIOS|2SSANGIEUNG|2YESIEUNG|2YESIEUNG-SIOS",
   "2YESIEUNG-PANSIOS|2wd|2SSANGHIEUH|2YEORINHIEUH|2YO-YA|2YO-YAE|2YO-I|2YU-YEO|2YU-YE|2YU-I",
   "2ARAEA|2ARAEAE|@3190 0fq ANNOTATION LINKING z|2gr z|2bq z|2bk z|2r z|2aq z|2pu z|2af z|2ft z",
   "2xq z|2ye z|2rb z|2FOURTH z|2HEAVEN z|2qi z|2MAN z|0BOPOMOFO a BU|2ZI|2JI|2GU|2EE|2ENN|2OO",
   "2ONN|2IR|2ANN|2INN|2UNN|2IM|2NGG|2AINN|2AUNN|2AM|2OM|2ONG|2INNN|1m a P|3T|3K|3H|1a GH|2LH|2ZY",
   "1m a G|1a GW|2KW|2OE|2AH|0CJK ad T|2WG|2XG|2BXG|2SW|2HZZ|2HZG|2HP|2HZWG|2SZWG|2HZT|2HZZP|2HPWG",
   "2HZW|2HZZZ|2N|2H|2S|2P|2SP|2D|2HZ|2HG|2SZ|2SWZ|2ST|2SG|2PD|2PZ|2TN|2SZZ|2SWG|2HXWG|2HZZZG|2PG",
   "2Q|@31F0 0kw a k KU|3SI|3SU|3TO|3NU|3HA|3HI|3HU|3HE|3HO|3MU|3RA|3RI|3RU|3RE|3RO|0sl qy ut|2zx",
   "2uu|2zy|2zz|2PIEUP|2SIOS|2xl|2xm|2rs|2rt|2ru|2rv|2HIEUH|2ut A|2zx A|2uu A|2zy A|2zz A|2PIEUP A",
   "2SIOS A|2xl A|2xm A|2rs A|2rt A|2ru A|2rv A|2HIEUH A|2xm U|1KOREAN gt OJEON|3O HU",
   "@3220 1IDEOGRAPH bq|2bk|2r|2aq|2aw|2eq|2ar|2ao|2cf|2ii|2mi|2FIRE|2rd|2WOOD|2METAL|2qi|2SUN",
   "2STOCK|2HAVE|2SOCIETY|2NAME|2SPECIAL|2FINANCIAL|2CONGRATULATION|2LABOR|2REPRESENT|2CALL|2STUDY",
   "2SUPERVISE|2ENTERPRISE|2RESOURCE|2ALLIANCE|2FESTIVAL|2sd|2SELF|2REACH|0ch IDEOGRAPH dy",
   "2KINDERGARTEN|2SCHOOL|2KOTO|1ck ii ON w al|2ei ON w al|2ib ON w al|2ma ON w al|2hi ON w al",
   "2nc ON w al|2eb ON w al|2lg ON w al|0PARTNERSHIP f|0ch ck ei bq|3bk|3r|3aq|3aw|3eq|3ar|3ao|3cf",
   "2ib|3bq|3bk|3r|3aq|3aw|1qy ut|2zx|2uu|2zy|2zz|2PIEUP|2SIOS|2xl|2xm|2rs|2rt|2ru|2rv|2HIEUH",
   "2ut A|2zx A|2uu A|2zy A|2zz A|2PIEUP A|2SIOS A|2xl A|2xm A|2rs A|2rt A|2ru A|2rv A|2HIEUH A",
   "1KOREAN gt CHAMKO|3JUEUI|1qy xl U|0KOREAN STANDARD u|0ch IDEOGRAPH bq|2bk|2r|2aq|2aw|2eq|2ar",
   "2ao|2cf|2ii|2mi|2FIRE|2rd|2WOOD|2METAL|2qi|2SUN|2STOCK|2HAVE|2SOCIETY|2NAME|2SPECIAL",
   "2FINANCIAL|2CONGRATULATION|2LABOR|2SECRET|2MALE|2FEMALE|2SUITABLE|2EXCELLENT|2PRINT|2ATTENTION",
   "2ITEM|2sd|2COPY|2CORRECT|2es|2cw|2hj|2n|2g|2MEDICINE|2RELIGION|2STUDY|2SUPERVISE|2ENTERPRISE",
   "2RESOURCE|2ALLIANCE|2NIGHT|1ck ib eq|3ar|3ao|3cf|2ma|3bq|3bk|3r|3aq|3aw|3eq|3ar|3ao|3cf|2hi",
   "0fq TELEGRAPH u qk JANUARY|4FEBRUARY|4MARCH|4APRIL|4MAY|4JUNE|4JULY|4AUGUST|4SEPTEMBER",
   "4OCTOBER|4NOVEMBER|4DECEMBER|0al HG|1ERG|1EV|0LIMITED LIABILITY f|0ch kw A|2I|2U|2E|2O|2KA|2KI",
   "2KU|2KE|2KO|2SA|2SI|2SU|2SE|2SO|2TA|2TI|2TU|2TE|2TO|2NA|2NI|2NU|2NE|2NO|2HA|2HI|2HU|2HE|2HO",
   "2MA|2MI|2MU|2ME|2MO|2YA|2YU|2YO|2RA|2RI|2RU|2RE|2RO|2WA|2WI|2WE|2WO|0al ERA NAME REIWA|1APAATO",
   "1ARUHUA|1ANPEA|1AARU|1ININGU|1INTI|1UON|1ESUKUUDO|1EEKAA|1ONSU|1OOMU|1KAIRI|1KARATTO|1KARORII",
   "1GARON|1GANMA|1GIGA|1GINII|1KYURII|1GIRUDAA|1KIRO|1KIROGURAMU|1KIROMEETORU|1KIROWATTO|1GURAMU",
   "1GURAMUTON|1KURUZEIRO|1KUROONE|1KEESU|1KORUNA|1KOOPO|1SAIKURU|1SANTIIMU|1SIRINGU|1SENTI|1SENTO",
   "1DAASU|1DESI|1DORU|1TON|1NANO|1NOTTO|1HAITU|1PAASENTO|1PAATU|1BAARERU|1PIASUTORU|1PIKURU|1PIKO",
   "1BIRU|1HUARADDO|1HUIITO|1BUSSYERU|1HURAN|1HEKUTAARU|1PESO|1PENIHI|1HERUTU|1PENSU|1PEEZI|1BEETA",
   "1POINTO|1BORUTO|1HON|1PONDO|1HOORU|1HOON|1MAIKURO|1MAIRU|1MAHHA|1MARUKU|1MANSYON|1MIKURON",
   "1MIRI|1MIRIBAARU|1MEGA|1MEGATON|1MEETORU|1YAADO|1YAARU|1YUAN|1RITTORU|1RIRA|1RUPII|1RUUBURU",
   "1REMU|1RENTOGEN|1WATTO|0fq TELEGRAPH u qk HOUR do|5bq|5bk|5r|5aq|5aw|5eq|5ar|5ao|5cf|5ii|5on",
   "5lw|5pj|5pk|5mg|5nu|5mu|5ng|5pl|5ei|5TWENTY-ONE|5TWENTY-TWO|5TWENTY-THREE|5TWENTY-FOUR|0al HPA",
   "1DA|1AU|1fb|1OV|1PC|1DM|2dx|2CUBED|1IU|1ERA NAME HEISEI|3SYOUWA|3TAISYOU|3MEIZI|1CORPORATION",
   "1PA AMPS|1NA|1MU A|1MA|1KA|=|1MB|1GB|1CAL|1KCAL|1PF|1NF|1MU F|=|1MG|1KG|1HZ|1KHZ|1MHZ|1GHZ",
   "1THZ|1MU L|1ML|1DL|1KL|1FM|1NM|1MU M|1MM|1CM|1KM|1MM dx|1CM dx|1M dx|1KM dx|1MM CUBED",
   "1CM CUBED|1M CUBED|1KM CUBED|1M cs S|4dx|1PA|1KPA|1MPA|1GPA|1RAD|2cs S|4dx|1PS|1NS|1MU S|1MS",
   "1PV|1NV|1MU V|1MV|1KV|1MV MEGA|1PW|1NW|1MU W|1MW|1KW|1MW MEGA|1K OHM|1M OHM|1AM|1BQ|1CC|=",
   "1C cs KG|1CO|1DB|1GY|1HA|1HP|1IN|1KK|1KM c|1KT|1LM|=|1LOG|1LX|1MB k|1MIL|1MOL|1PH|1PM|1PPM|1PR",
   "1SR|1SV|1WB|1V cs M|1A cs M|0fq TELEGRAPH u qk DAY bq|5bk|5r|5aq|5aw|5eq|5ar|5ao|5cf|5ii|5on",
   "5lw|5pj|5pk|5mg|5nu|5mu|5ng|5pl|5ei|5TWENTY-ONE|5TWENTY-TWO|5TWENTY-THREE|5TWENTY-FOUR|5vx",
   "5TWENTY-SIX|5TWENTY-SEVEN|5TWENTY-EIGHT|5TWENTY-NINE|5ib|5THIRTY-ONE|0al GAL",
   "@4DC0 0HEXAGRAM qk qn CREATIVE HEAVEN|3RECEPTIVE qi|2DIFFICULTY AT qn BEGINNING",
   "2YOUTHFUL FOLLY|2WAITING|2CONFLICT|2qn ARMY|2wn TOGETHER|2k TAMING|2TREADING|2PEACE",
   "2STANDSTILL|2FELLOWSHIP|2GREAT POSSESSION|2MODESTY|2ENTHUSIASM|2FOLLOWING|2WORK ON qn DECAYED",
   "2APPROACH|2CONTEMPLATION|2BITING mk|2GRACE|2SPLITTING APART|2RETURN|2INNOCENCE|2GREAT TAMING",
   "2ku wk|2GREAT PREPONDERANCE|2qn ABYSMAL rd|3CLINGING FIRE|2INFLUENCE|2DURATION|2RETREAT",
   "2GREAT POWER|2PROGRESS|2DARKENING OF qn bn|2qn FAMILY|2OPPOSITION|2OBSTRUCTION|2DELIVERANCE",
   "2DECREASE|2INCREASE|2BREAKTHROUGH|2COMING TO MEET|2GATHERING TOGETHER|2PUSHING UPWARD",
   "2OPPRESSION|2qn WELL|2REVOLUTION|2qn CAULDRON|3AROUSING THUNDER|3KEEPING STILL pn|2DEVELOPMENT",
   "2qn MARRYING MAIDEN|2ABUNDANCE|2qn WANDERER|3GENTLE WIND|3JOYOUS LAKE|2DISPERSION|2LIMITATION",
   "2INNER TRUTH|2k PREPONDERANCE|2AFTER COMPLETION|2BEFORE COMPLETION"]

end CodeLint.Text
