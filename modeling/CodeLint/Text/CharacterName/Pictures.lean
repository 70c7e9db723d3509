/-!
Names of characters: pictures and what is left.
The entries are explained where the names are looked up.
-/

namespace CodeLint.Text

set_option maxRecDepth 20000

def pictureNames : List String :=
  ["@1E000 0cg GLAGOLITIC a AZU|3BUKY|3VEDE|3GLAGOLI|3DOBRO|3YESTU|3ZHIVETE|@1E008 3ZEMLJA|3IZHE",
   "3q IZHE|3I|3DJERVI|3KAKO|3LJUDIJE|3MYSLITE|3NASHI|3ONU|3POKOJI|3RITSI|3SLOVO|3TVRIDO|3UKU",
   "3FRITU|3HERU|@1E01B 3SHTA|3TSI|3CHRIVI|3jb|3YERU|3YERI|3YATI|@1E023 3YU|3k zr|@1E026 3YO",
   "3wl k zr|3BIG zr|3wl BIG zr|3FITA|@1E100 0NYIAKENG PUACHUE HMONG a MA|4uj|4NTA|4TA|4HA|4NA|4XA",
   "4NKA|4CA|4LA|4SA|4ZA|4NCA|4NTSA|4KA|4DA|4jv|4NRA|4VA|4NTXA|4TXA|4FA|4RA|4QA|4YA|4NQA|4PA|4XYA",
   "4NPA|4DLA|4NPLA|4hq|4MLA|4PLA|4GA|4RRA|4A|4AA|4I|4U|4O|4OO|4E|4EE|4W|@1E130 3TONE-B|3TONE-M",
   "3TONE-J|3TONE-V|3TONE-S|3TONE-G|3TONE-D|3f qk ks|5THING|5LOCATION|5ANIMAL|5INVERTEBRATE|4XW XW",
   "3hh yk|@1E140 3br do|4bq|4bk|4r|4aq|4aw|4eq|4ar|4ao|4cf|@1E14E 3yl NYAJ|3ch CA",
   "@1E290 0TOTO a PA|2BA|2TA|2DA|2KA|2GA|2MA|2NA|2ja|2SA|2js|2YA|2WA|2JA|2HA|2RA|2LA|2I",
   "2BREATHY I|2IU|2BREATHY IU|2U|2E|2BREATHY E|2EO|2BREATHY EO|2O|2AE|2BREATHY AE|2A|1f mz em",
   "@1E2C0 0WANCHO a AA|2A|2BA|2CA|2DA|2GA|2YA|2lp|2LA|2NA|2PA|2TA|2kk|2FA|2SA|2jb|2JA|2ZA|2WA|2VA",
   "2KA|2O|2AU|2RA|2MA|2jx|2HA|2E|2I|2ja|2U|2LLHA|2uj|2TRA|2ONG|2AANG|2ANG|2ING|2ON|2EN|2AAN|2jv",
   "2UEN|2YIH|1em TUP|2TUPNI|2KOI|2KOINI|1br do|2bq|2bk|2r|2aq|2aw|2eq|2ar|2ao|2cf|@1E2FF 1NGUN f",
   "@1E7E0 0ETHIOPIC hh HHYA|2HHYU|2HHYI|2HHYAA|2HHYEE|2HHYE|2HHYO|@1E7E8 2GURAGE HHWA|2HHWI",
   "2HHWEE|2HHWE|@1E7ED 2GURAGE MWI|3MWEE|@1E7F0 3QWI|3QWEE|3QWE|3BWI|3BWEE|3KWI|3KWEE|3KWE|3GWI",
   "3GWEE|3GWE|3FWI|3FWEE|3PWI|3PWEE|@1E800 0MENDE KIKAKUI hh M001 KI|3M002 KA|3M003 KU|3M065 KEE",
   "3M095 KE|3M076 KOO|3M048 KO|3M179 KUA|3M004 WI|3M005 WA|3M006 WU|3M126 WEE|3M118 WE|3M114 WOO",
   "3M045 WO|3M194 WUI|3M143 WEI|3M061 WVI|3M049 WVA|3M139 WVE|3M007 MIN|3M008 MAN|3M009 MUN",
   "3M059 MEN|3M094 MON|3M154 MUAN|3M189 MUEN|3M010 BI|3M011 BA|3M012 BU|3M150 BEE|3M097 BE",
   "3M103 BOO|3M138 BO|3M013 I|3M014 A|3M015 U|3M163 EE|3M100 E|3M165 OO|3M147 O|3M137 EI|3M131 IN",
   "3M135 IN|3M195 AN|3M178 EN|3M019 SI|3M020 SA|3M021 SU|3M162 SEE|3M116 SE|3M136 SOO|3M079 SO",
   "3M196 SIA|3M025 LI|3M026 LA|3M027 LU|3M084 LEE|3M073 LE|3M054 LOO|3M153 LO|3M110 eg LE",
   "3M016 DI|3M017 DA|3M018 DU|3M089 DEE|3M180 DOO|3M181 DO|3M022 TI|3M023 TA|3M024 TU|3M091 TEE",
   "3M055 TE|3M104 TOO|3M069 TO|3M028 JI|3M029 JA|3M030 JU|3M157 JEE|3M113 JE|3M160 JOO|3M063 JO",
   "3M175 eg JO|3M031 YI|3M032 YA|3M033 YU|3M109 YEE|3M080 YE|3M141 YOO|3M121 YO|3M034 FI|3M035 FA",
   "3M036 FU|3M078 FEE|3M075 FE|3M133 FOO|3M088 FO|3M197 FUA|3M101 FAN|3M037 NIN|3M038 NAN",
   "3M039 np|3M117 NEN|3M169 NON|3M176 HI|3M041 HA|3M186 HU|3M040 HEE|3M096 HE|3M042 HOO|3M140 HO",
   "3M083 HEEI|3M128 HOOU|3M053 HIN|3M130 HAN|3M087 HUN|3M052 HEN|3M193 HON|3M046 HUAN|3M090 NGGI",
   "3M043 NGGA|3M082 NGGU|3M115 NGGEE|3M146 NGGE|3M156 NGGOO|3M120 NGGO|3M159 NGGAA|3M127 NGGUA",
   "3M086 eg NGGE|3M106 eg NGGOO|3M183 eg NGGO|3M155 GI|3M111 GA|3M168 GU|3M190 GEE|3M166 GUEI",
   "3M167 GUAN|3M184 NGEN|3M057 NGON|3M177 NGUAN|3M068 PI|3M099 PA|3M050 PU|3M081 PEE|3M051 PE",
   "3M102 POO|3M066 PO|3M145 MBI|3M062 MBA|3M122 MBU|3M047 MBEE|3M188 MBEE|3M072 MBE|3M172 MBOO",
   "3M174 MBO|3M187 MBUU|3M161 eg MBE|3M105 eg MBOO|3M142 eg MBO|3M132 KPI|3M092 KPA|3M074 KPU",
   "3M044 KPEE|3M108 KPE|3M112 KPOO|3M158 KPO|3M124 GBI|3M056 GBA|3M148 GBU|3M093 GBEE|3M107 GBE",
   "3M071 GBOO|3M070 GBO|3M171 RA|3M123 NDI|3M129 NDA|3M125 NDU|3M191 NDEE|3M119 NDE|3M067 NDOO",
   "3M064 NDO|3M152 NJA|3M192 NJU|3M149 NJEE|3M134 NJOO|3M182 VI|3M185 VA|3M151 VU|3M173 VEE",
   "3M085 VE|3M144 VOO|3M077 VO|3M164 NYIN|3M058 NYAN|3M170 NYUN|3M098 NYEN|3M060 NYON",
   "@1E8C7 2br bq|3bk|3r|3aq|3aw|3eq|3ar|3ao|3cf|2cg ck TEENS|4TENS|4HUNDREDS|4mp|4ii mp|4ab mp",
   "4qt|@1E900 0ADLAM c a ALIF|3DAALI|3LAAM|3MIIM|3BA|3SINNYIIYHE|3PE|3BHE|3RA|3E|3FA|3I|3O|3no",
   "3YHE|3qm|3np|3ui|3YA|3U|3JIIM|3yu|3HA|3QAAF|3GA|3jv|3TU|3NHA|3VA|3jx|3GBE|3ZAL|3KPO|3jb",
   "1k a ALIF|3DAALI|3LAAM|3MIIM|3BA|3SINNYIIYHE|3PE|3BHE|3RA|3E|3FA|3I|3O|3no|3YHE|3qm|3np|3ui",
   "3YA|3U|3JIIM|3yu|3HA|3QAAF|3GA|3jv|3TU|3NHA|3VA|3jx|3GBE|3ZAL|3KPO|3jb|1ALIF yk|1bm yk|1sr z",
   "1gs|1en dt|1GEMINATE en dt|1jg|1NASALIZATION z|@1E950 1br do|2bq|2bk|2r|2aq|2aw|2eq|2ar|2ao",
   "2cf|@1E95E 1q cv z|2dy z|@1EC71 0INDIC SIYAQ ck bq|3bk|3r|3aq|3aw|3eq|3ar|3ao|3cf|3ii|3ei|3ib",
   "3ma|3hi|3nc|3eb|3lg|3ew|3bq ab|3bk ab|3r ab|3aq ab|3aw ab|3eq ab|3ar ab|3ao ab|3cf ab|3bq ac",
   "3bk ac|3r ac|3aq ac|3aw ac|3eq ac|3ar ac|3ao ac|3cf ac|3ii ac|3ei ac|3ib ac|3ma ac|3hi ac",
   "3nc ac|3eb ac|3lg ac|3ew ac|3LAKH|3LAKHAN|2LAKH z|2ck KAROR|3KARORAN|3PREFIXED bq|4bk|4r|4aq",
   "4aw|4eq|4ar|4ao|4cf|2PLACEHOLDER|2gl bq ef|4cc|3r ia|2RUPEE z|2ck eo bq|4bk|4ii ac|2eo LAKH z",
   "@1ED01 0OTTOMAN SIYAQ ck bq|3bk|3r|3aq|3aw|3eq|3ar|3ao|3cf|3ii|3ei|3ib|3ma|3hi|3nc|3eb|3lg|3ew",
   "3bq ab|3bk ab|3r ab|3aq ab|3aw ab|3eq ab|3ar ab|3ao ab|3cf ab|3bq ac|3bk ac|3r ac|3aq ac",
   "3aw ac|3eq ac|3ar ac|3ao ac|3cf ac|3ii ac|3ei ac|3ib ac|3ma ac|3hi ac|3nc ac|3eb ac|3lg ac",
   "3ew ac|2MARRATAN|2eo ck bk|4r|4aq|4aw|4eq|4ar|4ao|4cf|4ii|4aq ab|4eq ab|4bk ac|4ii ac",
   "2gl bq cc|4SIXTH|@1EE00 0je me cx|2BEH|2ec|2DAL|@1EE05 2qm|2un|2hq|2vi|2ga|2ui|2qv|2bt|2iw|2lu",
   "2te|2yw|2yz|2wj|2tc|2lo|2TEH|2yy|2gp|2THAL|2DAD|2ZAH|2mx|2ju BEH|3iw|3yw|3wj|@1EE21 2q BEH|3ec",
   "@1EE24 3uo|@1EE27 3hq|@1EE29 3ga|3ui|3qv|3bt|3iw|3lu|3te|3yw|3yz|3wj|@1EE34 3lo|3TEH|3yy|3gp",
   "@1EE39 3DAD|@1EE3B 3mx|@1EE42 2TAILED ec|@1EE47 3hq|@1EE49 3ga|@1EE4B 3qv|@1EE4D 3iw|3lu|3te",
   "@1EE51 3yz|3wj|@1EE54 3lo|@1EE57 3gp|@1EE59 3DAD|@1EE5B 3mx|@1EE5D 3ju iw|@1EE5F 4wj",
   "@1EE61 2STRETCHED BEH|3ec|@1EE64 3uo|@1EE67 3hq|3vi|3ga|3ui|@1EE6C 3bt|3iw|3lu|3te|3yw|3yz|3wj",
   "@1EE74 3lo|3TEH|3yy|3gp|@1EE79 3DAD|3ZAH|3mx|3ju BEH|@1EE7E 4yw|@1EE80 2LOOPED cx|3BEH|3ec",
   "3DAL|3uo|3qm|3un|3hq|3vi|3ga|@1EE8B 3qv|3bt|3iw|3lu|3te|3yw|3yz|3wj|3tc|3lo|3TEH|3yy|3gp|3THAL",
   "3DAD|3ZAH|3mx|@1EEA1 2gj BEH|3ec|3DAL|@1EEA5 3qm|3un|3hq|3vi|3ga|@1EEAB 3qv|3bt|3iw|3lu|3te",
   "3yw|3yz|3wj|3tc|3lo|3TEH|3yy|3gp|3THAL|3DAD|3ZAH|3mx|@1EEF0 2cj bt b hq b TATWEEL|3hq b DAL",
   "@1F000 0MAHJONG TILE fu WIND|2fp WIND|2gq WIND|2fc WIND|2RED uy|2GREEN uy|2y uy|2bq OF ka",
   "2bk OF ka|2r OF ka|2aq OF ka|2aw OF ka|2eq OF ka|2ar OF ka|2ao OF ka|2cf OF ka|2bq OF qe",
   "2bk OF qe|2r OF qe|2aq OF qe|2aw OF qe|2eq OF qe|2ar OF qe|2ao OF qe|2cf OF qe|2bq OF kx",
   "2bk OF kx|2r OF kx|2aq OF kx|2aw OF kx|2eq OF kx|2ar OF kx|2ao OF kx|2cf OF kx|2PLUM|2ORCHID",
   "2BAMBOO|2CHRYSANTHEMUM|2SPRING|2SUMMER|2AUTUMN|2WINTER|2JOKER|2BACK|@1F030 0DOMINO TILE x BACK",
   "2HORIZONTAL-00-00|+6|2HORIZONTAL-01-00|+6|2HORIZONTAL-02-00|+6|2HORIZONTAL-03-00|+6",
   "2HORIZONTAL-04-00|+6|2HORIZONTAL-05-00|+6|2HORIZONTAL-06-00|+6|2p BACK|2VERTICAL-00-00|+6",
   "2VERTICAL-01-00|+6|2VERTICAL-02-00|+6|2VERTICAL-03-00|+6|2VERTICAL-04-00|+6|2VERTICAL-05-00|+6",
   "2VERTICAL-06-00|+6|@1F0A0 0PLAYING CARD BACK|2ACE OF lx|2bk OF lx|2r OF lx|2aq OF lx|2aw OF lx",
   "2eq OF lx|2ar OF lx|2ao OF lx|2cf OF lx|2ii OF lx|2JACK OF lx|2gn OF lx|2od OF lx|2sc OF lx",
   "@1F0B1 2ACE OF kb|2bk OF kb|2r OF kb|2aq OF kb|2aw OF kb|2eq OF kb|2ar OF kb|2ao OF kb",
   "2cf OF kb|2ii OF kb|2JACK OF kb|2gn OF kb|2od OF kb|2sc OF kb|2RED JOKER|@1F0C1 2ACE OF it",
   "2bk OF it|2r OF it|2aq OF it|2aw OF it|2eq OF it|2ar OF it|2ao OF it|2cf OF it|2ii OF it",
   "2JACK OF it|2gn OF it|2od OF it|2sc OF it|2w JOKER|@1F0D1 2ACE OF qj|2bk OF qj|2r OF qj",
   "2aq OF qj|2aw OF qj|2eq OF qj|2ar OF qj|2ao OF qj|2cf OF qj|2ii OF qj|2JACK OF qj|2gn OF qj",
   "2od OF qj|2sc OF qj|2y JOKER|2FOOL|2TRUMP-1|+20|@1F100 0br do gy ex|2du|1bq du|1bk du|1r du",
   "1aq du|1aw du|1eq du|1ar du|1ao du|1cf du|0DINGBAT ch dq br do|1hs ch dq br do|0ch do b nz",
   "1di e|1ws f b OVERLAID pc|0sl ek c a A|=25|0gz jo BRACKETED ek c a S|0ch px ek c a C|5R|1CD",
   "1WZ|0COPYLEFT u|0dx ek c a A|=25|1HV|1MV|1SD|1SS|1PPV|1WC|0hs ch ek c a A|=25|0ha MC f|1MD f",
   "1MR f|0ch CC|1C b OVERLAID pc|1HUMAN FIGURE|0hs dx ek c a A|=25|0mj hs dx ek c a P|0hs dx IC",
   "2PA|2SA|2AB|2WC|0al DJ|0dx CL|1COOL|1FREE|1ID|1NEW|1NG|1OK|1SOS|1UP b cv z|1VS|1r D|1ye SCREEN",
   "1bk K|1aq K|1ao K|1aw qu bq|1ar qu bq|1TWENTY-TWO qu bk|1nc P|1bq ab ei P|1ek k a D|1HC|1HDR",
   "1HI-RES|1LOSSLESS|1SHV|1UHD|1VOD|0MASK WORK u|@1F1E6 0REGIONAL mo u a A|=25|0al tx HOKA",
   "0dx kw KOKO|2SA|@1F210 1CJK UNIFIED IDEOGRAPH-624B|3IDEOGRAPH-5B57|3IDEOGRAPH-53CC|1kw DE",
   "1CJK UNIFIED IDEOGRAPH-4E8C|3IDEOGRAPH-591A|3IDEOGRAPH-89E3|3IDEOGRAPH-5929|3IDEOGRAPH-4EA4",
   "3IDEOGRAPH-6620|3IDEOGRAPH-7121|3IDEOGRAPH-6599|3IDEOGRAPH-524D|3IDEOGRAPH-5F8C",
   "3IDEOGRAPH-518D|3IDEOGRAPH-65B0|3IDEOGRAPH-521D|3IDEOGRAPH-7D42|3IDEOGRAPH-751F",
   "3IDEOGRAPH-8CA9|3IDEOGRAPH-58F0|3IDEOGRAPH-5439|3IDEOGRAPH-6F14|3IDEOGRAPH-6295",
   "3IDEOGRAPH-6355|3IDEOGRAPH-4E00|3IDEOGRAPH-4E09|3IDEOGRAPH-904A|3IDEOGRAPH-5DE6",
   "3IDEOGRAPH-4E2D|3IDEOGRAPH-53F3|3IDEOGRAPH-6307|3IDEOGRAPH-8D70|3IDEOGRAPH-6253",
   "3IDEOGRAPH-7981|3IDEOGRAPH-7A7A|3IDEOGRAPH-5408|3IDEOGRAPH-6E80|3IDEOGRAPH-6709",
   "3IDEOGRAPH-6708|3IDEOGRAPH-7533|3IDEOGRAPH-5272|3IDEOGRAPH-55B6|3IDEOGRAPH-914D",
   "@1F240 0gz jo BRACKETED CJK UNIFIED IDEOGRAPH-672C|5IDEOGRAPH-4E09|5IDEOGRAPH-4E8C",
   "5IDEOGRAPH-5B89|5IDEOGRAPH-70B9|5IDEOGRAPH-6253|5IDEOGRAPH-76D7|5IDEOGRAPH-52DD",
   "5IDEOGRAPH-6557|@1F250 0ch IDEOGRAPH ADVANTAGE|2ACCEPT|@1F260 0ns u qk FU|3LU|3SHOU|3XI",
   "3SHUANGXI|3CAI|@1F300 0CYCLONE|0FOGGY|0fs xw|0NIGHT b STARS|0SUNRISE cs MOUNTAINS|1",
   "0CITYSCAPE AT DUSK|0SUNSET cs BUILDINGS|0RAINBOW|0BRIDGE AT NIGHT|0rd pd|0VOLCANO|0MILKY WAY",
   "0qi GLOBE EUROPE-AFRICA|2AMERICAS|2ASIA-AUSTRALIA|0GLOBE b MERIDIANS|0NEW mi u|0WAXING tr mi u",
   "0xq ef mi u|0WAXING GIBBOUS mi u|0gy mi u|0WANING GIBBOUS mi u|0LAST ef mi u|0WANING tr mi u",
   "0tr mi|0NEW mi b cn|0xq ef mi b cn|0LAST ef mi b cn|0gy mi b cn|0SUN b cn|0GLOWING gc",
   "0SHOOTING gc|0THERMOMETER|0w DROPLET|0y SUN|2b k CLOUD|2BEHIND CLOUD|4b RAIN|0CLOUD b RAIN",
   "2SNOW|2LIGHTNING|2TORNADO|0FOG|0WIND BLOWING cn|0HOT DOG|0TACO|0BURRITO|0CHESTNUT|0SEEDLING",
   "0EVERGREEN TREE|0DECIDUOUS TREE|0PALM TREE|0CACTUS|0HOT PEPPER|0TULIP|0CHERRY BLOSSOM|0ROSE",
   "0HIBISCUS|0SUNFLOWER|0BLOSSOM|0EAR OF MAIZE|2RICE|0HERB|0aq po CLOVER|0MAPLE po|0FALLEN po",
   "0po FLUTTERING IN WIND|0MUSHROOM|0TOMATO|0AUBERGINE|0GRAPES|0MELON|0WATERMELON|0TANGERINE",
   "0LEMON|0BANANA|0PINEAPPLE|0RED APPLE|0GREEN APPLE|0PEAR|0PEACH|0CHERRIES|0STRAWBERRY",
   "0HAMBURGER|0SLICE OF PIZZA|0MEAT ON BONE|0POULTRY LEG|0RICE CRACKER|1zj|0COOKED RICE",
   "0CURRY s RICE|0STEAMING BOWL|0SPAGHETTI|0BREAD|0FRENCH FRIES|0ROASTED SWEET POTATO|0DANGO",
   "0ODEN|0SUSHI|0FRIED SHRIMP|0FISH CAKE b SWIRL DESIGN|0SOFT ICE CREAM|0SHAVED ICE|0ICE CREAM",
   "0DOUGHNUT|0COOKIE|0CHOCOLATE fb|0CANDY|0LOLLIPOP|0CUSTARD|0HONEY POT|0SHORTCAKE|0BENTO wg",
   "0POT OF FOOD|0COOKING|0FORK s KNIFE|0TEACUP WITHOUT HANDLE|0SAKE BOTTLE s CUP|0WINE GLASS",
   "0COCKTAIL GLASS|0TROPICAL DRINK|0BEER MUG|0CLINKING BEER MUGS|0BABY BOTTLE",
   "0FORK s KNIFE b PLATE|0BOTTLE b POPPING CORK|0POPCORN|0RIBBON|0WRAPPED PRESENT|0BIRTHDAY CAKE",
   "0JACK-O-LANTERN|0CHRISTMAS TREE|0FATHER CHRISTMAS|0FIREWORKS|0FIREWORK SPARKLER|0BALLOON",
   "0PARTY POPPER|0CONFETTI zj|0TANABATA TREE|0mj FLAGS|0PINE DECORATION|0rg DOLLS|0CARP STREAMER",
   "0WIND CHIME|0mi VIEWING CEREMONY|0SCHOOL SATCHEL|0GRADUATION CAP|0ie b TIP ON qn n",
   "0BOUQUET OF FLOWERS|0MILITARY MEDAL|0REMINDER RIBBON|0kl xv b JACKS|0STUDIO MICROPHONE",
   "0LEVEL SLIDER|0pz KNOBS|0BEAMED ASCENDING kl NOTES|1DESCENDING kl NOTES|0FILM FRAMES",
   "0ADMISSION TICKETS|0CAROUSEL yh|0FERRIS WHEEL|0ROLLER COASTER|0FISHING POLE s FISH|0MICROPHONE",
   "0MOVIE CAMERA|0CINEMA|0HEADPHONE|0ARTIST PALETTE|0pu HAT|0CIRCUS TENT|0TICKET|0CLAPPER BOARD",
   "0PERFORMING ARTS|0VIDEO GAME|0DIRECT HIT|0SLOT MACHINE|0BILLIARDS|0GAME DIE|0BOWLING",
   "0FLOWER PLAYING CARDS|0kl ql|0ji kl NOTES|0SAXOPHONE|0GUITAR|0kl xv|0TRUMPET|0VIOLIN|0kl SCORE",
   "0RUNNING SHIRT b SASH|0TENNIS RACQUET s zj|0SKI s SKI BOOT|0BASKETBALL s HOOP|0CHEQUERED zi",
   "0SNOWBOARDER|0RUNNER|0SURFER|0SPORTS MEDAL|0TROPHY|0yh RACING|0AMERICAN FOOTBALL",
   "0RUGBY FOOTBALL|0SWIMMER|0WEIGHT LIFTER|0GOLFER|0RACING MOTORCYCLE|1CAR|0CRICKET BAT s zj",
   "0VOLLEYBALL|0FIELD HOCKEY STICK s zj|0ICE HOCKEY STICK s PUCK|0TABLE TENNIS PADDLE s zj",
   "0SNOW CAPPED pn|0CAMPING|0BEACH b xw|0yq CONSTRUCTION|0HOUSE BUILDINGS|0CITYSCAPE",
   "0DERELICT HOUSE yq|0CLASSICAL yq|0DESERT|1ISLAND|0NATIONAL PARK|0STADIUM|0HOUSE yq|1b GARDEN",
   "0OFFICE yq|0rg POST OFFICE|0EUROPEAN POST OFFICE|0HOSPITAL|0BANK|0AUTOMATED TELLER MACHINE",
   "0HOTEL|0LOVE HOTEL|0CONVENIENCE STORE|0SCHOOL|0DEPARTMENT STORE|0FACTORY|0IZAKAYA LANTERN",
   "0rg CASTLE|0EUROPEAN CASTLE|0y PENNANT|0w PENNANT|0WAVING y zi|1w zi|0ROSETTE|0w ROSETTE",
   "0LABEL|0BADMINTON RACQUET s SHUTTLECOCK|0BOW s e|0AMPHORA|0EMOJI dt FITZPATRICK TYPE-1-2",
   "3TYPE-3|+3|0RAT|0MOUSE|0OX|0rd BUFFALO|0COW|0TIGER|0LEOPARD|0RABBIT|0CAT|0uy|0CROCODILE|0WHALE",
   "0SNAIL|0SNAKE|0yh|0RAM|0GOAT|0SHEEP|0MONKEY|0ROOSTER|0CHICKEN|0DOG|0PIG|0BOAR|0ELEPHANT",
   "0OCTOPUS|0SPIRAL jo|0BUG|0ANT|0HONEYBEE|0LADY BEETLE|0FISH|0TROPICAL FISH|0BLOWFISH|0TURTLE",
   "0HATCHING CHICK|0BABY CHICK|0FRONT-FACING BABY CHICK|0BIRD|0PENGUIN|0KOALA|0POODLE",
   "0DROMEDARY CAMEL|0BACTRIAN CAMEL|0DOLPHIN|0MOUSE cn|0COW cn|0TIGER cn|0RABBIT cn|0CAT cn",
   "0uy cn|0SPOUTING WHALE|0yh cn|0MONKEY cn|0DOG cn|0PIG cn|0FROG cn|0HAMSTER cn|0WOLF cn",
   "0BEAR cn|0PANDA cn|0PIG NOSE|0PAW PRINTS|0CHIPMUNK|0qd|0EYE|0EAR|0NOSE|0ku|0yj|0y UP ay pt bi",
   "1bz ay pt bi|1n ay pt bi|1g ay pt bi|0FISTED kt f|0WAVING kt f|0OK kt f|0THUMBS UP f|1bz f",
   "0CLAPPING yi f|0ea yi f|0CROWN|0WOMANS HAT|0EYEGLASSES|0NECKTIE|0T-SHIRT|0JEANS|0DRESS|0KIMONO",
   "0BIKINI|0WOMANS CLOTHES|0PURSE|0HANDBAG|0POUCH|0MANS SHOE|0ATHLETIC SHOE|0HIGH-HEELED SHOE",
   "0WOMANS SANDAL|1BOOTS|0FOOTPRINTS|0BUST IN yr|0BUSTS IN yr|0BOY|0GIRL|0MAN|0WOMAN|0FAMILY",
   "0MAN s WOMAN wn yi|0bk MEN wn yi|1WOMEN wn yi|0POLICE OFFICER|0WOMAN b BUNNY EARS",
   "0BRIDE b VEIL|0ks b BLOND HAIR|0MAN b GUA PI MAO|2TURBAN|0OLDER MAN|1WOMAN|0BABY",
   "0CONSTRUCTION WORKER|0PRINCESS|0rg OGRE|1GOBLIN|0GHOST|0BABY ANGEL|0EXTRATERRESTRIAL ALIEN",
   "0ALIEN MONSTER|0IMP|0SKULL|0oa DESK ks|0GUARDSMAN|0DANCER|0LIPSTICK|0NAIL POLISH|0cn MASSAGE",
   "0HAIRCUT|0BARBER POLE|0SYRINGE|0PILL|0KISS z|0LOVE a|0de|0GEM STONE|0KISS|0BOUQUET",
   "0COUPLE b ie|0WEDDING|0BEATING ie|0BROKEN ie|0bk kb|0SPARKLING ie|0GROWING ie|0ie b e|0BLUE ie",
   "0GREEN ie|0YELLOW ie|0PURPLE ie|0ie b RIBBON|0REVOLVING kb|0ie DECORATION|0df SHAPE b A cq jf",
   "0ELECTRIC bn BULB|0ANGER u|0BOMB|0SLEEPING u|0COLLISION u|0SPLASHING SWEAT u|0DROPLET|0ig u",
   "0PILE OF POO|0FLEXED BICEPS|0DIZZY u|0yg BALLOON|0THOUGHT BALLOON|0y FLOWER|0ab POINTS u",
   "0MONEY BAG|0wt EXCHANGE|0aj ws f|0CREDIT CARD|0BANKNOTE b YEN f|2ws f|2EURO f|2POUND f",
   "0MONEY b WINGS|0CHART b an TREND s YEN f|0SEAT|0PERSONAL COMPUTER|0BRIEFCASE|0MINIDISC",
   "0FLOPPY DISK|0OPTICAL DISC|0DVD|0FILE ys|0ea FILE ys|0PAGE b ow|1FACING UP|0CALENDAR",
   "0TEAR-OFF CALENDAR|0CARD bi|0CHART b an TREND|2aa TREND|0fb CHART|0CLIPBOARD|0PUSHPIN",
   "0tb PUSHPIN|0PAPERCLIP|0fo RULER|0dz RULER|0BOOKMARK TABS|0LEDGER|0NOTEBOOK",
   "1b DECORATIVE COVER|0fs BOOK|0ea BOOK|0GREEN BOOK|0BLUE BOOK|0ORANGE BOOK|0BOOKS|0NAME BADGE",
   "0SCROLL|0MEMO|0iv RECEIVER|0PAGER|0FAX MACHINE|0SATELLITE ANTENNA|0PUBLIC ADDRESS LOUDSPEAKER",
   "0CHEERING MEGAPHONE|0OUTBOX TRAY|0INBOX TRAY|0PACKAGE|0E-MAIL u|0INCOMING ni|0ni b aa e j",
   "0fs MAILBOX b LOWERED zi|3ha zi|0ea MAILBOX b ha zi|3LOWERED zi|0POSTBOX|0POSTAL ov|0NEWSPAPER",
   "0MOBILE PHONE|2b i e AT n|0VIBRATION MODE|0MOBILE PHONE OFF|0NO MOBILE PHONES|0ANTENNA b BARS",
   "0CAMERA|1b FLASH|0VIDEO CAMERA|0TELEVISION|0RADIO|0VIDEOCASSETTE|0FILM PROJECTOR",
   "0PORTABLE STEREO|0PRAYER BEADS|0TWISTED i kn|0ic i s o ea am kn|7b ch bq hk|1aa s an ea am kn",
   "0di aa s an ea am kn|0hj BRIGHTNESS u|0es BRIGHTNESS u|0SPEAKER b tj ad|1|1b bq nd pd",
   "2r nd WAVES|0BATTERY|0ELECTRIC PLUG|0da MAGNIFYING GLASS|0ca MAGNIFYING GLASS|0LOCK b INK PEN",
   "0fs LOCK b KEY|0KEY|0LOCK|0ea LOCK|0BELL|1b tj ad|0BOOKMARK|0LINK u|0RADIO BUTTON",
   "0BACK b o e j|0qr b o e j|0ON b cv z b n g e j|0SOON b i e j|0pu b an e j|0NO bq xu ng u",
   "0KEYCAP ii|0INPUT u qk ek c LETTERS|-|3NUMBERS|3SYMBOLS|3ek LETTERS|0FIRE|0ELECTRIC TORCH",
   "0WRENCH|0HAMMER|0NUT s BOLT|0HOCHO|0PISTOL|0MICROSCOPE|0TELESCOPE|0CRYSTAL zj",
   "0eq dw gc b af cq|0rg u qk BEGINNER|0TRIDENT EMBLEM|0w al BUTTON|0y al BUTTON|0cz RED am",
   "1BLUE am|1ORANGE df|1BLUE df|0k ORANGE df|1BLUE df|0gb RED ah|0fx RED ah|0gb k RED ah",
   "0fx k RED ah|0bs g jl y am|0cm g jl y am|0ch fk POMMEE|0fk POMMEE b HALF-CIRCLE v|2",
   "0qb n sv b r cr|1g sv b r cr|0u qk MARKS CHAPTER|0y ek fk|0aj ek fk|0CELTIC fk|0OM u",
   "0DOVE OF PEACE|0KAABA|0MOSQUE|0SYNAGOGUE|0MENORAH b cf BRANCHES|0BOWL OF HYGIEIA",
   "0CLOCK cn bq os|2bk os|2r os|2aq os|2aw os|2eq os|2ar os|2ao os|2cf os|2ii os|2on os|2lw os",
   "2ONE-THIRTY|2TWO-THIRTY|2THREE-THIRTY|2FOUR-THIRTY|2FIVE-THIRTY|2SIX-THIRTY|2SEVEN-THIRTY",
   "2EIGHT-THIRTY|2NINE-THIRTY|2TEN-THIRTY|2ELEVEN-THIRTY|2TWELVE-THIRTY|0g SPEAKER|2b bq nd pd",
   "3r nd WAVES|0BULLHORN|1b nd WAVES|0RINGING BELL|0BOOK|0CANDLE|0MANTELPIECE CLOCK",
   "0w SKULL s CROSSBONES|0NO PIRACY|0HOLE|0MAN IN BUSINESS SUIT LEVITATING|0SLEUTH OR SPY",
   "0DARK SUNGLASSES|0SPIDER|1WEB|0JOYSTICK|0MAN DANCING|0n kt iv RECEIVER|0iv RECEIVER b PAGE",
   "0g kt iv RECEIVER|0y TOUCHTONE iv|0w TOUCHTONE iv|0iv ON pu OF MODEM|0CLAMSHELL MOBILE PHONE",
   "0BACK OF ni|0STAMPED ni|0ni b LIGHTNING|0FLYING ni|0PEN cs STAMPED ni|0LINKED PAPERCLIPS",
   "0w PUSHPIN|0bs n PENCIL|2BALLPOINT PEN|2FOUNTAIN PEN|2PAINTBRUSH|2CRAYON|0n WRITING kt",
   "0bl OK kt f|0ha kt b gg SPLAYED|0as ha kt b gg SPLAYED|1THUMBS UP f|2bz f|1VICTORY kt",
   "1kt b af vf oz|0ha kt b PART in af s de gg|0y bz ay n kt bi|0na y n ay bi|2g ay bi|1w n ay bi",
   "2g ay bi|0w n ay pt bi|1g ay pt bi|0na y UP ay bi|2bz ay bi|1w UP ay bi|2bz ay bi",
   "0w UP ay pt bi|1bz ay pt bi|1ie|0DESKTOP COMPUTER|0xv s MOUSE|0r NETWORKED COMPUTERS|0PRINTER",
   "0POCKET CALCULATOR|0w HARD jo FLOPPY DISK|0y HARD jo FLOPPY DISK|0SOFT jo FLOPPY DISK",
   "0TAPE CARTRIDGE|0WIRED xv|0bq BUTTON MOUSE|0bk BUTTON MOUSE|0r BUTTON MOUSE|0TRACKBALL",
   "0qo PERSONAL COMPUTER|0HARD DISK|0SCREEN|0PRINTER ICON|0FAX ICON|0OPTICAL DISC ICON",
   "0DOCUMENT b TEXT|3s PICTURE|2PICTURE|0FRAME b PICTURE|2TILES|2AN X|0w ys|0ys|0ea ys",
   "0CARD bi DIVIDERS|1FILE wg|0FILE CABINET|0EMPTY ql|2PAGE|2PAD|0ql|1PAGE|1PAD|0EMPTY DOCUMENT",
   "1PAGE|1PAGES|0DOCUMENT|0PAGE|0PAGES|0WASTEBASKET|0SPIRAL ql PAD|1CALENDAR PAD|0DESKTOP WINDOW",
   "0MINIMIZE|0MAXIMIZE|0OVERLAP|0ic g s n sv kn|0tj X|0INCREASE FONT SIZE u|0DECREASE FONT SIZE u",
   "0COMPRESSION|0qo KEY|0ROLLED-UP NEWSPAPER|0PAGE b ch TEXT|0STOCK CHART|0DAGGER KNIFE|0LIPS",
   "0SPEAKING qx IN yr|0r RAYS j|2v|2n|2g|0n yg sx|0g yg sx|0bk yg BUBBLES|0r yg BUBBLES",
   "0n THOUGHT sx|0g THOUGHT sx|0n ANGER sx|0g ANGER sx|0MOOD sx|0LIGHTNING MOOD sx|2|0xx wg b xx",
   "1hn X|1wg b hn X|1lh hn X|1wg b lh hn X|0bn sk z|0xx wg b lh sk|0WORLD MAP|0MOUNT FUJI",
   "0TOKYO TOWER|0STATUE OF LIBERTY|0yr OF JAPAN|0MOYAI|0GRINNING cn|2b io qd|0cn b TEARS OF JOY",
   "0io cn b ea ku|5s io qd|6COLD SWEAT|6TIGHTLY-CLOSED qd|3HALO|3HORNS|0WINKING cn|0io cn b io qd",
   "0cn SAVOURING DELICIOUS FOOD|0RELIEVED cn|0io cn b HEART-SHAPED qd|3SUNGLASSES|0SMIRKING cn",
   "0hc cn|0EXPRESSIONLESS cn|0UNAMUSED cn|0cn b COLD SWEAT|0PENSIVE cn|0CONFUSED cn",
   "0CONFOUNDED cn|0KISSING cn|0cn THROWING A KISS|0KISSING cn b io qd|3fs qd|0cn b STUCK-OUT yj",
   "4s WINKING EYE|5TIGHTLY-CLOSED qd|0DISAPPOINTED cn|0WORRIED cn|0ANGRY cn|0POUTING cn",
   "0CRYING cn|0PERSEVERING cn|0cn b LOOK OF TRIUMPH|0DISAPPOINTED BUT RELIEVED cn",
   "0FROWNING cn b ea ku|0ANGUISHED cn|0FEARFUL cn|0WEARY cn|0SLEEPY cn|0TIRED cn|0GRIMACING cn",
   "0LOUDLY CRYING cn|0cn b ea ku|0HUSHED cn|0cn b ea ku s COLD SWEAT|1SCREAMING IN FEAR",
   "0ASTONISHED cn|0FLUSHED cn|0SLEEPING cn|0DIZZY cn|0cn WITHOUT ku|1b MEDICAL MASK",
   "0GRINNING CAT cn b io qd|0CAT cn b TEARS OF JOY|0io CAT cn b ea ku|4HEART-SHAPED qd",
   "0CAT cn b WRY SMILE|0KISSING CAT cn b fs qd|0POUTING CAT cn|0CRYING CAT cn|0WEARY CAT cn",
   "0SLIGHTLY FROWNING cn|1io cn|0UPSIDE-DOWN cn|0cn b ROLLING qd|2NO GOOD GESTURE|2OK GESTURE",
   "0ks BOWING DEEPLY|0SEE-NO-EVIL MONKEY|0HEAR-NO-EVIL MONKEY|0SPEAK-NO-EVIL MONKEY",
   "0HAPPY ks RAISING bq kt|0ks RAISING BOTH yi IN CELEBRATION|1FROWNING|1b POUTING cn|2FOLDED yi",
   "0fc gq ay po|0fp gq ay po|0fc fu ay po|0fp fu ay po|0bl fc gq ay po|1fp gq ay po|1fc fu ay po",
   "1fp fu ay po|0fc gq ay VINE po|0fp gq ay VINE po|0fc fu ay VINE po|0fp fu ay VINE po",
   "0aj fc gq ay VINE po|1fp gq ay VINE po|1fc fu ay VINE po|1fp fu ay VINE po|0fc gq ay BUD",
   "0fp gq ay BUD|0fc fu ay BUD|0fp fu ay BUD|0aj fc gq ay BUD|1fp gq ay BUD|1fc fu ay BUD",
   "1fp fu ay BUD|0HOLLOW QUILT al bo|4IN w al|0SOLID QUILT al bo|4IN w al|0o ROCKET|0an ROCKET",
   "0i ROCKET|0aa ROCKET|0hn ed ET bo|0aj hn ed ET bo|0ed ea ET bo|0aj ed ea ET bo|1mn bo",
   "0SWASH mn bo|0dq aj l bl du dc z bo|3du dc z bo|2hj l du dc z bo|0aj ra bo|0dq ra bo",
   "0aj dq ra bo|0lq aj gd|2gr gd|0CHECKER BOARD|0gr CHECKER BOARD|0ROCKET|0HELICOPTER",
   "0STEAM LOCOMOTIVE|0RAILWAY CAR|0HIGH-SPEED TRAIN|2b lv NOSE|0TRAIN|0METRO|0bn RAIL|0STATION",
   "0TRAM|1CAR|0BUS|0yt BUS|0TROLLEYBUS|0BUS ex|0MINIBUS|0AMBULANCE|0FIRE ENGINE|0POLICE CAR",
   "0yt POLICE CAR|0TAXI|0yt TAXI|0AUTOMOBILE|0yt AUTOMOBILE|0RECREATIONAL VEHICLE|0DELIVERY TRUCK",
   "0ARTICULATED LORRY|0TRACTOR|0MONORAIL|0pn RAILWAY|0SUSPENSION RAILWAY|0pn CABLEWAY",
   "0AERIAL TRAMWAY|0SHIP|0ROWBOAT|0SPEEDBOAT|0x TRAFFIC bn|0p TRAFFIC bn|0CONSTRUCTION f",
   "0POLICE CARS REVOLVING bn|0dz zi ON POST|0DOOR|0NO ENTRY f|0SMOKING u|0NO SMOKING u",
   "0PUT LITTER IN ITS PLACE u|0DO kz LITTER u|0POTABLE rd u|0NON-POTABLE rd u|0BICYCLE",
   "0NO BICYCLES|0BICYCLIST|0pn BICYCLIST|0PEDESTRIAN|0NO PEDESTRIANS|0CHILDREN dn|0MENS u",
   "0WOMENS u|0RESTROOM|0BABY u|0TOILET|0rd CLOSET|0SHOWER|0BATH|0BATHTUB|0PASSPORT pz|0CUSTOMS",
   "0BAGGAGE CLAIM|0n LUGGAGE|0ah b ns wk|0PROHIBITED f|0ch oa SOURCE|0BOYS u|0GIRLS u",
   "0COUCH s LAMP|0SLEEPING ACCOMMODATION|0SHOPPING BAGS|0BELLHOP BELL|0BED|0PLACE OF WORSHIP",
   "0OCTAGONAL f|0SHOPPING TROLLEY|0STUPA|0PAGODA|0HINDU TEMPLE|0HUT|0ELEVATOR",
   "@1F6DD 0PLAYGROUND SLIDE|0WHEEL|0de BUOY|0HAMMER s WRENCH|0SHIELD|0OIL DRUM|0MOTORWAY",
   "0RAILWAY TRACK|0MOTOR BOAT|0gb MILITARY rh|1rh|1k rh|0k rh|0NORTHEAST-POINTING rh",
   "0rh DEPARTURE|1ARRIVING|@1F6F0 0SATELLITE|0yt FIRE ENGINE|0DIESEL LOCOMOTIVE|0PASSENGER SHIP",
   "0SCOOTER|0MOTOR SCOOTER|0CANOE|0SLED|0FLYING SAUCER|0SKATEBOARD|0AUTO RICKSHAW|0PICKUP TRUCK",
   "0ROLLER SKATE|@1F700 0ALCHEMICAL u qk QUINTESSENCE|3AIR|3FIRE|3qi|3rd|3AQUAFORTIS|3AQUA REGIA",
   "4REGIA-2|4VITAE|4VITAE-2|3VINEGAR|3VINEGAR-2|+|3SULFUR|3PHILOSOPHERS SULFUR|3w SULFUR",
   "3MERCURY vg|4SUBLIMATE-2|+|3CINNABAR|3SALT|3NITRE|3VITRIOL|3VITRIOL-2|3ROCK SALT|4SALT-2|3GOLD",
   "3SILVER|3IRON ORE|4ORE-2|3CROCUS OF IRON|3REGULUS OF IRON|3COPPER ORE|3IRON-COPPER ORE",
   "3vg OF COPPER|3CROCUS OF COPPER|5COPPER-2|3COPPER ANTIMONIATE|3SALT OF COPPER ANTIMONIATE",
   "3vg OF SALT OF COPPER|3VERDIGRIS|3TIN ORE|3LEAD ORE|3uh ORE|3vg OF uh|3SALT OF uh",
   "3vg OF SALT OF uh|3VINEGAR OF uh|3REGULUS OF uh|5ANTIMONY-2|4|3REGULUS-2|+2|3ALKALI|3ALKALI-2",
   "3MARCASITE|3SAL-AMMONIAC|3ARSENIC|3REALGAR|3REALGAR-2|3AURIPIGMENT|3BISMUTH ORE|3TARTAR",
   "3TARTAR-2|3QUICK LIME|3BORAX|3BORAX-2|+|3ALUM|3OIL|3SPIRIT|3TINCTURE|3GUM|3WAX|3POWDER|3CALX",
   "3TUTTY|3CAPUT MORTUUM|3SCEPTER OF JOVE|3CADUCEUS|3TRIDENT|3STARRED TRIDENT|3LODESTONE|3SOAP",
   "3URINE|3yh DUNG|3ASHES|3POT ASHES|3BRICK|3POWDERED BRICK|3AMALGAM|3STRATUM SUPER STRATUM",
   "5STRATUM-2|3SUBLIMATION|3PRECIPITATE|3DISTILL|3DISSOLVE|3DISSOLVE-2|3PURIFY|3PUTREFACTION",
   "3CRUCIBLE|3CRUCIBLE-2|+3|3ALEMBIC|3BATH OF MARY|5VAPOURS|3RETORT|3HOUR|3NIGHT|3DAY-NIGHT",
   "3MONTH|3cc DRAM|4OUNCE|@1F780 0w da ISOSCELES g ah|1gb ISOSCELES g ah|1ca ISOSCELES g ah",
   "1fx ISOSCELES g ah|1SLIGHTLY k am|0ba lh y am|0lh y am|0aj y am|0lq aj y am|0sa aj y am",
   "0y am nh w k am|0tb TARGET|0w TINY al|1SLIGHTLY k al|0bn y al|0ba y al|0lh y al|0aj y al",
   "0lq aj y al|0sa aj y al|0y al nh w lq k al|4ba al|0al TARGET|0w TINY df|1lq k df|1ba k df",
   "0y df nh w lq k df|4ba df|0df TARGET|0w TINY kr|1lq k kr|1ba k kr|0y kr nh w k kr|0THIN jc fk",
   "0bn jc fk|0ba jc fk|0lh jc fk|0lq lh jc fk|1aj jc fk|0sa aj jc fk|0THIN mh|0bn mh|0ba mh",
   "0lh mh|0aj mh|0lq aj mh|0sa aj mh|0bn aw jp cd|0ba aw jp cd|0lh aw jp cd|0aj aw jp cd",
   "0lq aj aw jp cd|0sa aj aw jp cd|0bn eq jp cd|0ba eq jp cd|0lh eq jp cd|0aj eq jp cd",
   "0lq aj eq jp cd|0sa aj eq jp cd|0bn ao jp cd|0ba ao jp cd|0lh ao jp cd|0aj ao jp cd",
   "0lq aj ao jp cd|0bn r dw w gc|0ba r dw w gc|0r dw w gc|0ba r dw nj gc|0bn aq dw w gc",
   "0ba aq dw w gc|0aq dw w gc|0ba aq dw nj gc|0gr bn aq dw nj gc|0bn aw dw w gc|0aj aw dw w gc",
   "0ba eq dw w gc|0aj eq dw w gc|0eq dw nj gc|0ba ao dw w gc|0aj ao dw w gc|0lq aj ao dw w gc",
   "0aj ao dw nj gc|0bn lw dw w gc|0aj lw dw w gc|3nj gc|0ch ah|0hs ch ah|0ch al|0hs ch al",
   "@1F7E0 0cz ORANGE am|1YELLOW am|1GREEN am|1PURPLE am|1BROWN am|1RED al|1BLUE al|1ORANGE al",
   "1YELLOW al|1GREEN al|1PURPLE al|1BROWN al|@1F7F0 0aj fg f|@1F800 0o e b k ah ak",
   "0an e b k ah ak|0i e b k ah ak|0aa e b k ah ak|0o e b ba ah ak|0an e b ba ah ak",
   "0i e b ba ah ak|0aa e b ba ah ak|0o e b cz ah ak|0an e b cz ah ak|0i e b cz ah ak",
   "0aa e b cz ah ak|@1F810 0o e b k db ak|0an e b k db ak|0i e b k db ak|0aa e b k db ak",
   "0o e b db ak|0an e b db ak|0i e b db ak|0aa e b db ak|0aj o e b db ak|1an e b db ak",
   "1i e b db ak|1aa e b db ak|1o e b cz db ak|1an e b cz db ak|1i e b cz db ak|1aa e b cz db ak",
   "0o t e b NARROW kg|0an t e b NARROW kg|0i t e b NARROW kg|0aa t e b NARROW kg|0o t e b ba kg",
   "0an t e b ba kg|0i t e b ba kg|0aa t e b ba kg|0o t e b lh kg|0an t e b lh kg|0i t e b lh kg",
   "0aa t e b lh kg|0o t e b aj kg|0an t e b aj kg|0i t e b aj kg|0aa t e b aj kg",
   "0o t e b lq aj kg|0an t e b lq aj kg|0i t e b lq aj kg|0aa t e b lq aj kg|0o wb e|0an wb e",
   "0i wb e|0aa wb e|0o dx e|0an dx e|0i dx e|0aa dx e|0o lj e|0an lj e|0i lj e|0aa lj e",
   "0o aj lj e|0an aj lj e|0i aj lj e|0aa aj lj e|0o aj e|0an aj e|0i aj e|0aa aj e|@1F850 0o dq e",
   "0an dq e|0i dq e|0aa dq e|0fc gq dq e|1fu dq e|0fp fu dq e|1gq dq e|0n g dq e|0UP bz dq e",
   "@1F860 0WIDE-HEADED o bn dg e|1an bn dg e|1i bn dg e|1aa bn dg e|1fc gq bn dg e|2fu bn dg e",
   "1fp fu bn dg e|2gq bn dg e|1o dg e|1an dg e|1i dg e|1aa dg e|1fc gq dg e|2fu dg e|1fp fu dg e",
   "2gq dg e|1o ba dg e|1an ba dg e|1i ba dg e|1aa ba dg e|1fc gq ba dg e|2fu ba dg e",
   "1fp fu ba dg e|2gq ba dg e|1o aj dg e|1an aj dg e|1i aj dg e|1aa aj dg e|1fc gq aj dg e",
   "2fu aj dg e|1fp fu aj dg e|2gq aj dg e|1o lq aj dg e|1an lq aj dg e|1i lq aj dg e",
   "1aa lq aj dg e|1fc gq lq aj dg e|2fu lq aj dg e|1fp fu lq aj dg e|2gq lq aj dg e",
   "@1F890 0o ah ak|0an ah ak|0i ah ak|0aa ah ak|0o y e xd ah ak|0an y e xd ah ak|0i y e xd ah ak",
   "0aa y e xd ah ak|0o e b qb he|0an e b qb he|0i e b qb he|0aa e b qb he|0aj e kg WIDTH bq",
   "4bk su|4bq cc|5rb|0o BOTTOM-SHADED y e|0i ft SHADED y e|0o pu SHADED y e|0i pu SHADED y e",
   "0o LEFT-SHADED y e|0i RIGHT-SHADED y e|0o RIGHT-SHADED y e|0i LEFT-SHADED y e",
   "0o BACK-TILTED jl y e|0i BACK-TILTED jl y e|0o FRONT-TILTED jl y e|0i FRONT-TILTED jl y e",
   "0y e kg WIDTH bq|4bk su|@1F8B0 0e ay an THEN fc gq|2i THEN CURVING fp gq",
   "@1F900 0ch fk FORMEE b aq cr|4bk cr|3|0n cc am b aq cr|4r cr|4bk cr|4cq|3|0DOWNWARD FACING be",
   "2qb be|2be b cq|2qb be b cq|0PINCHED gg|0y ie|0BROWN ie|0PINCHING kt|0ZIPPER-MOUTH cn",
   "0MONEY-MOUTH cn|0cn b THERMOMETER|0NERD cn|0THINKING cn|0cn b HEAD-BANDAGE|0ROBOT cn",
   "0HUGGING cn|0f OF qn HORNS|0CALL ME kt|0ha BACK OF kt|0vh FIST|0td FIST|0HANDSHAKE",
   "0kt b bi s af gg mj|0I LOVE YOU kt f|0cn b COWBOY HAT|0CLOWN cn|0NAUSEATED cn",
   "0ROLLING ON qn vu LAUGHING|0DROOLING cn|0LYING cn|0cn PALM|0SNEEZING cn|0cn b bq EYEBROW ha",
   "0GRINNING cn b gc qd|3bq cz s bq k EYE|0cn b vf COVERING fs LIPS",
   "0SERIOUS cn b SYMBOLS COVERING ku|0io cn b io qd s kt COVERING ku|0cn b ea ku VOMITING",
   "0SHOCKED cn b EXPLODING qx|0PREGNANT WOMAN|0BREAST-FEEDING|0PALMS UP TOGETHER|0SELFIE|0PRINCE",
   "0MAN IN TUXEDO|0MOTHER CHRISTMAS|0SHRUG|0ks DOING CARTWHEEL|0JUGGLING|0FENCER",
   "0MODERN PENTATHLON|0WRESTLERS|0rd POLO|0HANDBALL|0DIVING MASK|0WILTED FLOWER",
   "0DRUM b DRUMSTICKS|0CLINKING GLASSES|0TUMBLER GLASS|0SPOON|0GOAL NET|0RIFLE|0xq PLACE MEDAL",
   "0ye PLACE MEDAL|0rb PLACE MEDAL|0BOXING GLOVE|0MARTIAL ARTS UNIFORM|0CURLING STONE",
   "0LACROSSE STICK s zj|0SOFTBALL|0FLYING DISC|0CROISSANT|0AVOCADO|0CUCUMBER|0BACON|0POTATO",
   "0CARROT|0BAGUETTE BREAD|0GREEN SALAD|0SHALLOW PAN OF FOOD|0STUFFED FLATBREAD|0EGG",
   "0GLASS OF MILK|0PEANUTS|0KIWIFRUIT|0PANCAKES|0DUMPLING|0FORTUNE COOKIE|0TAKEOUT wg|0CHOPSTICKS",
   "0BOWL b SPOON|0CUP b STRAW|0COCONUT|0BROCCOLI|0PIE|0PRETZEL|0CUT OF MEAT|0SANDWICH",
   "0CANNED FOOD|0LEAFY GREEN|0MANGO|0mi CAKE|0BAGEL|0io cn b io qd s r kb|0YAWNING cn",
   "0io cn b TEAR|0cn b PARTY ov s PARTY HAT|2UNEVEN qd s WAVY ku|0OVERHEATED cn|0FREEZING cn",
   "0NINJA|0DISGUISED cn|0cn wn BACK TEARS|1b PLEADING qd|0SARI|0LAB COAT|0GOGGLES|0HIKING BOOT",
   "0FLAT SHOE|0CRAB|0LION cn|0SCORPION|0TURKEY|0UNICORN cn|0EAGLE|0DUCK|0BAT|0SHARK|0OWL|0FOX cn",
   "0BUTTERFLY|0DEER|0GORILLA|0LIZARD|0RHINOCEROS|0SHRIMP|0SQUID|0GIRAFFE cn|0ZEBRA cn|0HEDGEHOG",
   "0SAUROPOD|0T-REX|0CRICKET|0KANGAROO|0LLAMA|0PEACOCK|0HIPPOPOTAMUS|0PARROT|0RACCOON|0LOBSTER",
   "0MOSQUITO|0MICROBE|0BADGER|0SWAN|0MAMMOTH|0DODO|0SLOTH|0OTTER|0ORANGUTAN|0SKUNK|0FLAMINGO",
   "0OYSTER|0BEAVER|0BISON|0SEAL|0GUIDE DOG|0PROBING CANE|0EMOJI COMPONENT RED HAIR|2ix HAIR|2BALD",
   "2y HAIR|0BONE|0LEG|0FOOT|0TOOTH|0SUPERHERO|0SUPERVILLAIN|0SAFETY VEST|0EAR b HEARING AID",
   "0MOTORIZED WHEELCHAIR|0MANUAL WHEELCHAIR|0MECHANICAL ARM|1LEG|0CHEESE WEDGE|0CUPCAKE",
   "0SALT SHAKER|0BEVERAGE wg|0GARLIC|0ONION|0FALAFEL|0WAFFLE|0BUTTER|0MATE DRINK|0ICE CUBE",
   "0sx TEA|0TROLL|0STANDING ks|0KNEELING ks|0DEAF ks|0cn b MONOCLE|0ADULT|0CHILD|0OLDER ADULT",
   "0BEARDED ks|0ks b HEADSCARF|1IN STEAMY ROOM|1CLIMBING|1IN LOTUS POSITION|0MAGE|0FAIRY|0VAMPIRE",
   "0MERPERSON|0ELF|0GENIE|0ZOMBIE|0BRAIN|0ORANGE ie|0BILLED CAP|0SCARF|0GLOVES|0COAT|0SOCKS",
   "0RED GIFT ni|0FIRECRACKER|0JIGSAW PUZZLE PIECE|0TEST TUBE|0PETRI oq|0DNA l HELIX|0COMPASS",
   "0ABACUS|0FIRE EXTINGUISHER|0TOOLBOX|0BRICK|0MAGNET|0LUGGAGE|0LOTION BOTTLE|0SPOOL OF THREAD",
   "0zj OF YARN|0SAFETY PIN|0TEDDY BEAR|0BROOM|0BASKET|0ROLL OF PAPER|0fb OF SOAP|0SPONGE|0RECEIPT",
   "0NAZAR AMULET|0hc hm sc|2od|2zg|2op|2gn|2zh|0y hm gn bp FORTY-FIVE ci",
   "0w hm gn bp FORTY-FIVE ci|0hc hm gn bp FORTY-FIVE ci|0y hm sc bp ew ci|2od bp ew ci",
   "2zg bp ew ci|2op bp ew ci|2gn bp ew ci|2zh bp ew ci|0w hm sc bp ew ci|2od bp ew ci",
   "2zg bp ew ci|2op bp ew ci|2gn bp ew ci|2zh bp ew ci|0hc hm sc bp ew ci|2od bp ew ci",
   "2zg bp ew ci|2op bp ew ci|2gn bp ew ci|2zh bp ew ci|0y hm gn bp bq ab THIRTY-FIVE ci",
   "0w hm gn bp bq ab THIRTY-FIVE ci|0hc hm gn bp bq ab THIRTY-FIVE ci|0y hm bl sc|3od|3zg|3op|3gn",
   "3zh|0w hm bl sc|3od|3zg|3op|3gn|3zh|0hc hm bl sc|3od|3zg|3op|3gn|3zh|0y hm gn bp bk ab vx ci",
   "0w hm gn bp bk ab vx ci|0hc hm gn bp bk ab vx ci|0y hm sc bp bk ab eb ci|2od bp bk ab eb ci",
   "2zg bp bk ab eb ci|2op bp bk ab eb ci|2gn bp bk ab eb ci|2zh bp bk ab eb ci",
   "0w hm sc bp bk ab eb ci|2od bp bk ab eb ci|2zg bp bk ab eb ci|2op bp bk ab eb ci",
   "2gn bp bk ab eb ci|2zh bp bk ab eb ci|0hc hm sc bp bk ab eb ci|2od bp bk ab eb ci",
   "2zg bp bk ab eb ci|2op bp bk ab eb ci|2gn bp bk ab eb ci|2zh bp bk ab eb ci",
   "0y hm gn bp r ab mg ci|0w hm gn bp r ab mg ci|0hc hm gn bp r ab mg ci|0y hm qf|0w hm qf",
   "0hc hm qf|0y hm qf bp ew ci|0w hm qf bp ew ci|0hc hm qf bp ew ci|0y hm KNIGHT-QUEEN",
   "2KNIGHT-ROOK|2KNIGHT-BISHOP|0w hm KNIGHT-QUEEN|2KNIGHT-ROOK|2KNIGHT-BISHOP",
   "@1FA60 0XIANGQI RED GENERAL|2MANDARIN|2ELEPHANT|2yh|2CHARIOT|2CANNON|2SOLDIER|1w GENERAL",
   "2MANDARIN|2ELEPHANT|2yh|2CHARIOT|2CANNON|2SOLDIER|@1FA70 0BALLET SHOES|0ONE-PIECE SWIMSUIT",
   "0BRIEFS|0SHORTS|0THONG SANDAL|@1FA78 0DROP OF BLOOD|0ADHESIVE BANDAGE|0STETHOSCOPE|0X-RAY",
   "0CRUTCH|@1FA80 0YO-YO|0KITE|0PARACHUTE|0BOOMERANG|0MAGIC WAND|0PINATA|0NESTING DOLLS",
   "@1FA90 0RINGED PLANET|0CHAIR|0RAZOR|0AXE|0DIYA LAMP|0BANJO|0MILITARY HELMET|0ACCORDION",
   "0eg DRUM|0COIN|0CARPENTRY SAW|0SCREWDRIVER|0LADDER|0be|0MIRROR|0WINDOW|0PLUNGER|0SEWING NEEDLE",
   "0KNOT|0BUCKET|0MOUSE TRAP|0TOOTHBRUSH|0HEADSTONE|0PLACARD|0ROCK|0MIRROR zj",
   "0IDENTIFICATION CARD|0hj BATTERY|0HAMSA|@1FAB0 0FLY|0WORM|0BEETLE|0COCKROACH|0POTTED PLANT",
   "0WOOD|0FEATHER|0LOTUS|0CORAL|0EMPTY NEST|0NEST b EGGS|@1FAC0 0ANATOMICAL ie|0LUNGS",
   "0PEOPLE HUGGING|0PREGNANT MAN|1ks|0ks b CROWN|@1FAD0 0BLUEBERRIES|0BELL PEPPER|0OLIVE",
   "0FLATBREAD|0TAMALE|0FONDUE|0TEAPOT|0POURING LIQUID|0BEANS|0JAR|@1FAE0 0MELTING cn|0SALUTING cn",
   "0cn b ea qd s kt cs ku|2PEEKING EYE|2co ku|0ev fn cn|0BITING LIP|0BUBBLES",
   "@1FAF0 0kt b bi vf s cp mj|0i kt|0o kt|0PALM bz kt|1UP kt|0bi ay AT qn VIEWER|0ie yi",
   "@1FB00 0dp SEXTANT-1|+|1SEXTANT-12|1SEXTANT-3|1SEXTANT-13|1SEXTANT-23|1SEXTANT-123|1SEXTANT-4",
   "1SEXTANT-14|1SEXTANT-24|1SEXTANT-124|1SEXTANT-34|1SEXTANT-134|1SEXTANT-234|1SEXTANT-1234",
   "1SEXTANT-5|1SEXTANT-15|1SEXTANT-25|1SEXTANT-125|1SEXTANT-35|1SEXTANT-235|1SEXTANT-1235",
   "1SEXTANT-45|1SEXTANT-145|1SEXTANT-245|1SEXTANT-1245|1SEXTANT-345|1SEXTANT-1345|1SEXTANT-2345",
   "1SEXTANT-12345|1SEXTANT-6|1SEXTANT-16|1SEXTANT-26|1SEXTANT-126|1SEXTANT-36|1SEXTANT-136",
   "1SEXTANT-236|1SEXTANT-1236|1SEXTANT-46|1SEXTANT-146|1SEXTANT-1246|1SEXTANT-346|1SEXTANT-1346",
   "1SEXTANT-2346|1SEXTANT-12346|1SEXTANT-56|1SEXTANT-156|1SEXTANT-256|1SEXTANT-1256|1SEXTANT-356",
   "1SEXTANT-1356|1SEXTANT-2356|1SEXTANT-12356|1SEXTANT-456|1SEXTANT-1456|1SEXTANT-2456",
   "1SEXTANT-12456|1SEXTANT-3456|1SEXTANT-13456|1SEXTANT-23456|0bs n dp co bs af n TO bs cw|9g",
   "4cm af n TO bs cw|9g|5n TO bs cw|1g dp co cm af n TO cm cw|9g|4bs af n TO cm cw|9g|5n TO cm cw",
   "5af n TO cm af g|5cw TO bs af g|5n TO bs af g|5cw TO cm af g|5n TO cm af g|5cw TO cm g",
   "1n dp co cm cw TO cm af g|5n TO cm af g|5cw TO bs af g|5n TO bs af g|5cw TO bs g",
   "5af n TO bs af g|0cm g dp co bs af n TO bs cw|9g|4cm af n TO bs cw|9g|5n TO bs cw",
   "1n dp co cm af n TO cm cw|9g|4bs af n TO cm cw|9g|5n TO cm cw|5af n TO cm af g|5cw TO bs af g",
   "5n TO bs af g|5cw TO cm af g|5n TO cm af g|5cw TO cm g|1g dp co cm cw TO cm af g|5n TO cm af g",
   "5cw TO bs af g|5n TO bs af g|5cw TO bs g|5af n TO bs af g|1s g s bs dz r ia dp",
   "0n s bs s g dz r ia dp|0cm s n s bs dz r ia dp|0n s cm s g dz r ia dp|1dz bq ef dp",
   "0cm dz bq ef dp|0g dz bq ef dp|0bs dz bq ef dp|0p bq gw BLOCK-2|+5|0x bq gw BLOCK-2|+5",
   "0n s bs bq gw dp|2cm bq gw dp|0g s cm bq gw dp|2bs bq gw dp|0cm s bs bq gw dp",
   "0x bq gw BLOCK-1358|0cm bq ef dp|1r jn dp|1aw jn dp|1r ia dp|1ar jn dp|0g bq ef dp|1r jn dp",
   "1aw jn dp|1r ia dp|1ar jn dp|0n cc ba pm|0g cc ba pm|0cm cc ba pm|0bs cc ba pm|0oc ba pm",
   "0cm cc dp s bs cc oc ba pm|2oc ba pm s bs cc dp|@1FB94 0n cc oc ba pm s g cc dp",
   "0CHECKER BOARD wh|0oc CHECKER BOARD wh|0aj x wh|0cm n TO bs g wh|1g TO bs n wh|1s bs dz cc dp",
   "0n s g dz cc dp|0cm n dz ba pm|1g dz ba pm|0bs g dz ba pm|1n dz ba pm",
   "0wg DRAWINGS bn co cm cw TO af n|8g|4af n TO bs cw|5g TO bs cw|4cm cw TO af n TO bs cw",
   "8g TO bs cw|4af n TO bs cw TO af g|7cm cw TO af g|4cm cw TO af n s af g TO bs cw",
   "8g s af n TO bs cw|9TO bs cw TO af n|8n TO bs cw TO af g|4af n TO cm cw TO af g TO bs cw",
   "5g TO cm cw TO af n TO bs cw|4df|3x b p ad|0ARROWHEAD-SHAPED POINTER|0oc sk z",
   "0n cc RUNNING MAN|0g cc RUNNING MAN|0oc aa e b TIP o|0o e s cm s bs bq gw dp",
   "0i e s cm s bs bq gw dp|0aa e s g bq gw dp|0an e s g bq gw dp|0n cc ys|0g cc ys|0VOIDED jc fk",
   "0g ea dx cq|0hs co fk|2af g TO bs cw|2df|0y aj mh b ns wk|0n rb y g ay bi|0af rb y g ay bi",
   "0g rb y g ay bi|0hs dx dy z|0STICK FIGURE|2b ARMS ha|2LEANING n|3g|2b DRESS|0y gb CHEVRON",
   "@1FBF0 0SEGMENTED br do|2bq|2bk|2r|2aq|2aw|2eq|2ar|2ao|2cf|@E0001 0LANGUAGE TAG|@E0020 0TAG kc",
   "1cv z|1dc z|1ck f|1ws f|1PERCENT f|1mn|1jw|1n bb|1g bb|1cd|1bw f|1du|1sy|1gy ex|1gd|1br do|2bq",
   "2bk|2r|2aq|2aw|2eq|2ar|2ao|2cf|1hl|1iu|1at f|1fg f|1ai f|1dy z|1so AT|1ek c a A|=25|1n al ae",
   "1gr gd|1g al ae|1au eu|1hj fn|1er eu|1ek k a A|=25|1n ix ae|1p fn|1g ix ae|1cl|0CANCEL TAG",
   "@E0100 0uv SELECTOR-17|+239"]

end CodeLint.Text
