/-!
Names of characters: ancient scripts.
The entries are explained where the names are looked up.
-/

namespace CodeLint.Text

set_option maxRecDepth 20000

def ancientNames : List String :=
  ["@10000 0LINEAR B hh B008 A|3B038 E|3B028 I|3B061 O|3B010 U|3B001 DA|3B045 DE|3B007 DI|3B014 DO",
   "3B051 DU|3B057 JA|3B046 JE|@1000D 3B036 JO|3B065 JU|3B077 KA|3B044 KE|3B067 KI|3B070 KO",
   "3B081 KU|3B080 MA|3B013 ME|3B073 MI|3B015 MO|3B023 MU|3B006 NA|3B024 NE|3B030 NI|3B052 NO",
   "3B055 NU|3B003 PA|3B072 PE|3B039 PI|3B011 PO|3B050 PU|3B016 QA|3B078 QE|3B021 QI|3B032 QO",
   "@10028 3B060 RA|3B027 RE|3B053 RI|3B002 RO|3B026 RU|3B031 SA|3B009 SE|3B041 SI|3B012 SO",
   "3B058 SU|3B059 TA|3B004 TE|3B037 TI|3B005 TO|3B069 TU|3B054 WA|3B075 WE|3B040 WI|3B042 WO",
   "@1003C 3B017 ZA|3B074 ZE|@1003F 3B020 ZO|3B025 A2|3B043 A3|3B085 AU|3B071 DWE|3B090 DWO",
   "3B048 NWA|3B029 PU2|3B062 PTE|3B076 RA2|3B033 RA3|3B068 RO2|3B066 TA2|3B087 TWE|3B091 bk",
   "@10050 2u B018|+|3B022|3B034|3B047|3B049|3B056|3B063|+|3B079|3B082|+|3B086|3B089",
   "@10080 2ym B100 MAN|3B102 WOMAN|3B104 DEER|3B105 EQUID|3B105F MARE|3B105M STALLION|3B106F EWE",
   "3B106M RAM|3B107F SHE-GOAT|3B107M HE-GOAT|3B108F SOW|3B108M BOAR|3B109F COW|3B109M BULL",
   "3B120 WHEAT|3B121 BARLEY|3B122 OLIVE|3B123 SPICE|3B125 CYPERUS|2ts B127 KAPO|3B128 KANAKO",
   "2ym B130 OIL|3B131 WINE|3B132|2ts B133 AREPA|3B135 MERI|2ym B140 BRONZE|3B141 GOLD|3B142",
   "3B145 WOOL|3B146|3B150|3B151 ov|3B152|+2|2ts B156 TURO2|2ym B157|+|3B159 CLOTH|3B160|+",
   "3B162 GARMENT|3B163 ARMOUR|3B164|+8|3B173 MONTH|3B174|3B176 TREE|3B177|+8|3B189|+|3B191 HELMET",
   "3B220 FOOTSTOOL|3B225 BATHTUB|3B230 SPEAR|3B231 e|3B232|3B233 SWORD|3B234|3B236",
   "3B240 WHEELED CHARIOT|3B241 CHARIOT|3B242 CHARIOT FRAME|3B243 WHEEL|3B245|+|2ts B247 DIPTE",
   "2ym B248|+|3B251|+2|3B254 DART|3B255|+4|3VESSEL B155|4B200|+19|4B221|+|4B226|+3|4B250|4B305",
   "@10100 0AEGEAN ur cy fn|3cq|1sk z|@10107 1ck bq|2bk|2r|2aq|2aw|2eq|2ar|2ao|2cf|2ii|2ei|2ib|2ma",
   "2hi|2nc|2eb|2lg|2ew|2bq ab|2bk ab|2r ab|2aq ab|2aw ab|2eq ab|2ar ab|2ao ab|2cf ab|2bq ac",
   "2bk ac|2r ac|2aq ac|2aw ac|2eq ac|2ar ac|2ao ac|2cf ac|2ii ac|2ei ac|2ib ac|2ma ac|2hi ac",
   "2nc ac|2eb ac|2lg ac|2ew ac|@10137 1WEIGHT BASE UNIT|2xq rx|2ye rx|2rb rx|2FOURTH rx",
   "1DRY wo xq rx|1LIQUID wo xq rx|1wo ye rx|2rb rx|0jc ACROPHONIC ATTIC bq ef|4cc|4DRACHMA|3aw",
   "3hi|3aw ab|4ac|3hi ac|3aw tz|3ii tz|3hi tz|3bq ab tz|3aw ab tz|3bq ac tz|3aw ac tz|4ry|3ii ry",
   "3hi ry|3bq ab ry|3aw ab ry|3bq ac ry|3ii ac ry|3hi ac ry|3ii MNAS|2HERAEUM bq PLETHRON|2ua bq",
   "2HERMIONIAN bq|2EPIDAUREAN bk|2ua bk|2CYRENAIC bk DRACHMAS|2EPIDAUREAN bk DRACHMAS",
   "2TROEZENIAN aw|3ii|4eo d|2HERMIONIAN ii|2MESSENIAN ii|2ua ii|3ib|2TROEZENIAN hi|4eo d",
   "2HERMIONIAN hi|2ua hi|3bq ab|3r ab|2EPIDAUREAN aw ab|2TROEZENIAN aw ab|2ua aw ab",
   "2CARYSTIAN aw ab|2NAXIAN aw ab|2ua bq ac|3aw ac|2DELPHIC aw MNAS|2STRATIAN hi MNAS|1bq cc f",
   "4eo d|1bk su f|1r ia f|1YEAR f|1TALENT f|1DRACHMA f|1OBOL f|1bk OBOLS f|1r OBOLS f|1aq OBOLS f",
   "1aw OBOLS f|1METRETES f|1KYATHOS BASE f|1LITRA f|1OUNKIA f|1XESTES f|1ARTABE f|1AROURA f",
   "1GRAMMA f|1TRYBLION BASE f|1do f|1bq ef f|1SINUSOID f|1INDICTION f|0NOMISMA f",
   "@10190 0ROMAN SEXTANS f|1UNCIA f|1SEMUNCIA f|1SEXTULA f|1DIMIDIA SEXTULA f|1SILIQUA f",
   "1DENARIUS f|1QUINARIUS f|1SESTERTIUS f|1DUPONDIUS f|1AS f|1CENTURIAL f|0ASCIA u",
   "@101A0 0jc u TAU wc|@101D0 0PHAISTOS DISC f PEDESTRIAN|3PLUMED qx|3TATTOOED qx|3CAPTIVE|3CHILD",
   "3WOMAN|3HELMET|3GAUNTLET|3TIARA|3e|3BOW|3SHIELD|3CLUB|3MANACLES|3MATTOCK|3SAW|3LID|3BOOMERANG",
   "3CARPENTRY PLANE|3DOLIUM|3COMB|3SLING|3COLUMN|3BEEHIVE|3SHIP|3ov|3HIDE|3BULLS LEG|3CAT|3RAM",
   "3EAGLE|3DOVE|3TUNNY|3BEE|3PLANE TREE|3VINE|3PAPYRUS|3ROSETTE|3LILY|3OX BACK|3FLUTE|3GRATER",
   "3STRAINER|3k AXE|3WAVY BAND|3cg nt ad|@10280 0LYCIAN a A|2E|2B|2BH|2G|2D|2I|2W|2Z|2TH|2J|=|2Q",
   "2L|=2|2MM|2NN|2U|2P|2KK|2R|=2|2TT|2AN|2EN|2H|2X|@102A0 0CARIAN a A|2P2|2D|2L|2UUU|2R|2LD|2A2",
   "2Q|2B|2M|2O|2D2|2T|2SH|2SH2|2S|2C-18|2U|2NN|2X|2N|2TT2|2P|2SS|2I|2E|2UUUU|2K|2K2|2ND|2UU|2G",
   "2G2|2ST|2ST2|2NG|2II|2C-39|2TT|2UUU2|2RR|2MB|2MB2|+2|2LD2|2E2|2UUU3|@102E0 0lt EPACT mp z",
   "2br bq|3bk|3r|3aq|3aw|3eq|3ar|3ao|3cf|2ck ii|3ei|3ib|3ma|3hi|3nc|3eb|3lg|3ew|3bq ab|3bk ab",
   "3r ab|3aq ab|3aw ab|3eq ab|3ar ab|3ao ab|3cf ab|@10300 0qo px a A|3BE|3KE|3DE|3E|3VE|3ZE|3HE",
   "3qn|3I|3KA|3EL|=2|3ESH|3O|3PE|3si|3KU|3ER|=|3TE|3U|3EKS|3PHE|3KHE|3EF|3ERS|3CHE|3II|3UU|3ESS",
   "2nq bq|3aw|3ii|3hi|@1032D 2a YE|3NORTHERN TSE|3SOUTHERN TSE|0GOTHIC a AHSA|2BAIRKAN|2GIBA",
   "2DAGS|2AIHVUS|2QAIRTHRA|2IUJA|2HAGL|2THIUTH|2EIS|2KUSMA|2LAGUS|2MANNA|2NAUTHS|2JER|2URUS",
   "2PAIRTHRA|2ew|2RAIDA|2SAUIL|2TEIWS|2WINJA|2FAIHU|2IGGWS|2HWAIR|2OTHAL|2cf ab",
   "@10350 0qo PERMIC a AN|3BUR|3GAI|3DOI|3E|3ZHOI|3DZHOI|3ZATA|3DZITA|3I|3KOKE|3LEI|3MENOE|3NENOE",
   "3VOOI|3PEEI|3REI|3SII|3TAI|3U|3CHERY|3SHOOI|3SHCHOOI|3YRY|3YERU|3O|3OO|3EF|3HA|3TSIU|3VER|3YER",
   "3YERI|3YAT|3IE|3YU|3YA|3IA|0cg qo PERMIC a AN|4DOI|4ZATA|4NENOE|4SII|@10380 0UGARITIC a ALPA",
   "2sb|2GAMLA|2jx|2ld|2HO|2WO|2wx|2HOTA|2TET|2YOD|2ui|2lb|2qg|2MEM|2DHAL|2np|2ZU|2SAMKA|2te|2PU",
   "2SADE|2QOPA|2RASHA|2THANNA|2mx|2TO|2I|2U|2SSU|@1039F 1ur wm|0qo PERSIAN f A|3I|3U|3KA|3KU|3GA",
   "3GU|3XA|3CA|3JA|3JI|3TA|3TU|3DA|3DI|3DU|3kk|3PA|3BA|3FA|3NA|3NU|3MA|3MI|3MU|3YA|3VA|3VI|3RA",
   "3RU|3LA|3SA|3ZA|3jb|3pv|3HA|@103C8 3AURAMAZDAA|3AURAMAZDAA-2|3AURAMAZDAAHA|3XSHAAYATHIYA",
   "3DAHYAAUSH|3DAHYAAUSH-2|3BAGA|3BUUMISH|2ur wm|2ck bq|3bk|3ii|3ei|3ab|@10400 0DESERET c a eg I",
   "4E|4A|4AH|4O|4OO|3ey I|4E|4A|4AH|4O|4OO|3AY|3OW|3WU|3YEE|3H|3PEE|3BEE|3TEE|3DEE|3CHEE|3JEE",
   "3KAY|3GAY|3EF|3VEE|3ETH|3THEE|3ES|3ZEE|3ESH|3ZHEE|3ER|3EL|=2|3ENG|3OI|3EW|1k a eg I|4E|4A|4AH",
   "4O|4OO|3ey I|4E|4A|4AH|4O|4OO|3AY|3OW|3WU|3YEE|3H|3PEE|3BEE|3TEE|3DEE|3CHEE|3JEE|3KAY|3GAY|3EF",
   "3VEE|3ETH|3THEE|3ES|3ZEE|3ESH|3ZHEE|3ER|3EL|=2|3ENG|3OI|3EW|0SHAVIAN a PEEP|2TOT|2KICK|2FEE",
   "2THIGH|2SO|2SURE|2CHURCH|2YEA|2HUNG|2BIB|2DEAD|2GAG|2VOW|2THEY|2ZOO|2wo|2JUDGE|2WOE|2HA-HA",
   "2LOLL|2MIME|2IF|2EGG|2oh|2ADO|2ON|2WOOL|2OUT|2AH|2ROAR|2np|2EAT|2AGE|2ICE|2UP|2OAK|2OOZE|2OIL",
   "2AWE|2ARE|2OR|2AIR|2ERR|2ARRAY|2EAR|2IAN|2YEW|0OSMANYA a cx|2BA|2TA|2JA|2XA|2jx|2DEEL|2RA|2SA",
   "2SHIIN|2no|2CAYN|2GA|2FA|2QAAF|2KAAF|2LAAN|2MIIN|2NUUN|2qm|2HA|2YA|2A|2E|2I|2O|2U|2AA|2EE|2OO",
   "@104A0 1br do|2bq|2bk|2r|2aq|2aw|2eq|2ar|2ao|2cf|@104B0 0OSAGE c a A|3AI|3te|3AH|3BRA|3js",
   "3EHCHA|3E|3EIN|3HA|3HYA|3I|3KA|3EHKA|3KYA|3LA|3MA|3NA|3O|3OIN|3PA|3EHPA|3SA|3jb|3TA|3EHTA|3uj",
   "3EHTSA|3us|3no|3U|3WA|3jx|3nn|3ZA|3zv|@104D8 1k a A|3AI|3te|3AH|3BRA|3js|3EHCHA|3E|3EIN|3HA",
   "3HYA|3I|3KA|3EHKA|3KYA|3LA|3MA|3NA|3O|3OIN|3PA|3EHPA|3SA|3jb|3TA|3EHTA|3uj|3EHTSA|3us|3no|3U",
   "3WA|3jx|3nn|3ZA|3zv|@10500 0ELBASAN a A|2BE|2CE|2CHE|2DE|2NDE|2DHE|2EI|2E|2FE|2GE|2GJE|2HE|2I",
   "2JE|2KE|2LE|2LLE|2ME|2NE|2NA|2NJE|2O|2PE|2QE|2RE|2RRE|2SE|2si|2TE|2qn|2U|2VE|2XE|2Y|2ZE|2ZHE",
   "2GHE|2GHAMMA|2KHE|@10530 0CAUCASIAN ALBANIAN a ALT|3BET|3GIM|3DAT|3EB|3ZARL|3EYN|3ZHIL|3TAS",
   "3js|3YOWD|3zv|3IRB|3jb|3LAN|3INYA|3XEYN|3DYAN|3CAR|3JHOX|3KAR|3LYIT|3HEYT|3QAY|3AOR|3CHOY|3yu",
   "3CYAY|3MAQ|3QAR|3NOWC|3DZYAY|3SHAK|3JAYN|3ON|3TYAY|3FAM|3DZAY|3CHAT|3PEN|3GHEYS|3RAT|3SEYK",
   "3VEYZ|3TIWR|3SHOY|3IWN|3CYAW|3CAYN|3YAYD|3PIWR|3KIW|@1056F 2CITATION z|0VITHKUQI c a A|3BBE",
   "3BE|3CE|3CHE|3DE|3DHE|3EI|3E|3FE|3GA|@1057C 3HA|3HHA|3I|3IJE|3JE|3KA|3LA|3vk|3ME|3NE|3NJE|3O",
   "3PE|3QA|3RE|@1058C 3SE|3si|3TE|3qn|3U|3VE|3XE|@10594 3Y|3ZE|@10597 1k a A|3BBE|3BE|3CE|3CHE",
   "3DE|3DHE|3EI|3E|3FE|3GA|@105A3 3HA|3HHA|3I|3IJE|3JE|3KA|3LA|3vk|3ME|3NE|3NJE|3O|3PE|3QA|3RE",
   "@105B3 3SE|3si|3TE|3qn|3U|3VE|3XE|@105BB 3Y|3ZE|@10600 0LINEAR A f AB001|+10|3AB013|3AB016|+",
   "3AB020|+|3AB021F|3AB021M|3AB022|3AB022F|3AB022M|3AB023|3AB023M|3AB024|3AB026|+2|3A028B|3AB029",
   "+2|3AB034|3AB037|+4|3AB044|+7|3AB053|+8|3AB065|+2|3AB069|+|3AB073|+|3AB076|+6|3AB085|+2",
   "3A100-102|3AB118|3AB120|3A120B|3AB122|+|3AB131A|=|3A131C|3AB164|3AB171|3AB180|3AB188|3AB191",
   "3A301|+7|3A309A|=2|3A310|+2|3A313A|=2|3A314|+57|3A400-VAS|3A401-VAS|3A402-VAS|3A403-VAS",
   "3A404-VAS|3A405-VAS|3A406-VAS|3A407-VAS|3A408-VAS|3A409-VAS|3A410-VAS|3A411-VAS|3A412-VAS",
   "3A413-VAS|3A414-VAS|3A415-VAS|3A416-VAS|3A417-VAS|3A418-VAS|3A501|+5|3A508|+5|3A515|+|3A520|+",
   "3A523|+9|3A534|+8|3A545|3A547|+10|3A559|3A563|+3|3A568|+21|3A591|+|3A594|+2|3A598|3A600|+4",
   "3A606|3A608|+16|3A626|+3|3A634|3A637|+|3A640|3A642|+4|3A648|+|3A651|+13|@10740 3A701 A|3A702 B",
   "3A703 D|3A704 E|3A705 F|3A706 H|3A707 J|3A708 K|3A709 L|3A709-2 L2|3A709-3 L3|3A709-4 L4",
   "3A709-6 L6|3A710 W|3A711 X|3A712 Y|3A713 hg|3A714 ABB|3A715 BB|3A717 DD|3A726 EYYY|3A732 JE",
   "@10760 3A800|+7|@10780 0dt a k c AA|2gk dz hl|3cc dz hl|2k AE|3c B|3B b be|@10787 3DZ fj",
   "5b by be|6ow|3DEZH fj|3D b he|5be|6s he|3as E|3fs as ea E|3FENG fj|3RAMS ov|3c G|3G b be",
   "3c G b be|3H b ad|3c H|3HENG b be|3ju J b ad s be|3LS fj|3LZ fj|3L b BELT|3c L b BELT",
   "3L b by be s BELT|3LEZH|4b by be|3bl Y|5b BELT|3O b ad|3c OE|3fs hg|3Q|3bl R b eg LEG|8s by be",
   "3R b he|5qp|3c R|3TC fj b ow|3TS fj|5b by be|3TESH fj|3T b by be|3V b g be|@107B2 3c Y",
   "2gf ex b ad|2as gf ex b ad|2BILABIAL ta|2DENTAL ta|2LATERAL ta|2ALVEOLAR ta|2by ta b by be",
   "2k S b ow|@10800 0CYPRIOT hh A|2E|2I|2O|2U|2JA|@10808 2JO|@1080A 2KA|2KE|2KI|2KO|2KU|2LA|2LE",
   "2LI|2LO|2LU|2MA|2ME|2MI|2MO|2MU|2NA|2NE|2NI|2NO|2NU|2PA|2PE|2PI|2PO|2PU|2RA|2RE|2RI|2RO|2RU",
   "2SA|2SE|2SI|2SO|2SU|2TA|2TE|2TI|2TO|2TU|2WA|2WE|2WI|2WO|@10837 2XA|2XE|@1083C 2ZA|@1083F 2ZO",
   "0IMPERIAL ARAMAIC a nk|3sq|3nr|3rk|3HE|3qm|3qh|3uq|3TETH|3va|3tg|3li|3MEM|3np|3kj|3yx|3PE|3pa",
   "3QOPH|3wz|3lb|3TAW|@10857 2ge f|2ck bq|3bk|3r|3ii|3ei|3bq ab|4ac|3ii ac|0PALMYRENE a nk|2sq",
   "2nr|2rk|2HE|2qm|2qh|2uq|2TETH|2va|2tg|2li|2MEM|2m np|2np|2kj|2yx|2PE|2pa|2QOPH|2wz|2lb|2TAW",
   "1da FLEURON|1ca FLEURON|1ck bq|2bk|2r|2aq|2aw|2ii|2ei|0NABATAEAN a m nk|2nk|2m sq|2sq|2nr|2rk",
   "2m HE|2HE|2qm|2qh|2uq|2TETH|2m va|2va|2m tg|2tg|2m li|2li|2m MEM|2MEM|2m np|2np|2kj|2yx|2PE",
   "2pa|2QOPH|2wz|2m lb|2lb|2TAW|@108A7 1ck bq|2bk|2r|2aq|1CRUCIFORM ck aq|1ck aw|2ii|2ei|2bq ab",
   "@108E0 0HATRAN a nk|2sq|2nr|2DALETH-RESH|2HE|2qm|2ZAYN|2uq|2TETH|2va|2tg|2li|2MEM|2np|2kj|2AYN",
   "2PE|2pa|2QOPH|@108F4 2lb|2TAW|@108FB 1ck bq|2aw|2ii|2ei|2bq ab|0PHOENICIAN a ALF|2BET|2GAML",
   "2DELT|2HE|2WAU|2ZAI|2HET|2TET|2YOD|2ui|2LAMD|2MEM|2np|2SEMK|2te|2PE|2SADE|2QOF|2ROSH|2lb|2TAU",
   "1ck bq|2ii|2ei|2bq ab|2bk|2r|@1091F 1ur cy|0LYDIAN a A|=|2G|2D|=|2V|2I|2Y|2K|=4|2R|2SS|2T|=|2F",
   "2Q|2S|2TT|2AN|2EN|2LY|2NN|2C|@1093F 1dz z|@10980 0MEROITIC HIEROGLYPHIC a A|3E|3I|3O|3YA|3WA",
   "3BA|3BA-2|3PA|3MA|3NA|3NA-2|3NE|3NE-2|3RA|3RA-2|3LA|3jx|3HHA|3SA|3SA-2|3SE|3KA|3QA|3TA|3TA-2",
   "3TE|3TE-2|3TO|3DA|2u VIDJ|3VIDJ-2|1CURSIVE a A|3E|3I|3O|3YA|3WA|3BA|3PA|3MA|3NA|3NE|3RA|3LA",
   "3jx|3HHA|3SA|3hx SA|3SE|3KA|3QA|3TA|3TE|3TO|3DA|@109BC 2gl on lr|3bq cc|2yl RMT|3IMN|2ck bq",
   "3bk|3r|3aq|3aw|3eq|3ar|3ao|3cf|3ii|3ei|3ib|3ma|3hi|3nc|3eb|@109D2 3bq ab|3bk ab|3r ab|3aq ab",
   "3aw ab|3eq ab|3ar ab|3ao ab|3cf ab|3bq ac|3bk ac|3r ac|3aq ac|3aw ac|3eq ac|3ar ac|3ao ac",
   "3cf ac|3ii ac|3ei ac|3ib ac|3ma ac|3hi ac|3nc ac|3eb ac|3lg ac|3ew ac|3bq ab ac|3bk ab ac",
   "3r ab ac|3aq ab ac|3aw ab ac|3eq ab ac|3ar ab ac|3ao ab ac|3cf ab ac|2gl bq TWELFTH|3bk lr",
   "3r lr|3aq lr|3aw lr|3eq lr|3ar lr|3ao lr|3cf lr|3ii lr|0KHAROSHTHI a A|1bm f I|3U|3bx R",
   "@10A05 3E|3O|@10A0C 2lf z|1f l de v|2bu|2ds|1a KA|2jx|2GA|2nn|@10A15 2CA|2js|2JA|@10A19 2jv",
   "2mq|2if|2nb|2ir|2oi|2TA|2kk|2DA|2no|2NA|2PA|2lp|2BA|2ot|2MA|2YA|2RA|2LA|2VA|2jb|2pv|2SA|2ZA",
   "2HA|2KKA|2TTTHA|2TTTA|2VHA|@10A38 1f fb j|2CAUDA|2cq v|@10A3F 1eh|1br bq|2bk|2r|2aq|1ck ii|2ei",
   "2bq ab|3ac|1gl bq cc|@10A50 1az cq|2k am|2am|2tr fb|2MANGALAM|2LOTUS|2hw|2l hw|2LINES",
   "@10A60 0qo fp ARABIAN a HE|4li|4uq|4MEM|4QOPH|4qm|4lb|4wz|4sq|4TAW|4SAT|4tg|4np|4KHETH|4pa|4kj",
   "4FE|4cx|4AYN|4DHADHE|4nr|4rk|4GHAYN|4TETH|4ZAYN|4DHALETH|4va|4THAW|4THETH|3ck bq|4hi",
   "3NUMERIC mo|1fc ARABIAN a uo|4qv|4hq|4bt|4wj|4qm|4ES-2|4tc|4BEH|4TEH|4ES-1|4ui|4iw|4gp|4yz",
   "4ES-3|4yw|4cx|4te|4DAD|4GEEM|4DAL|4mx|4vi|4un|4THAL|4ga|4yy|4ZAH|3ck bq|4ii|4ei",
   "@10AC0 0MANICHAEAN a nk|2sq|2BHETH|2nr|2GHIMEL|2rk|2HE|2qm|1f UD|1a qh|2ZHAYIN|2JAYIN|2JHAYIN",
   "2uq|2TETH|2va|2tg|2XAPH|2KHAPH|2li|2DHAMEDH|2THAMEDH|2MEM|2np|2kj|2yx|2AAYIN|2PE|2FE|2pa|2QOPH",
   "2XOPH|2QHOPH|2wz|2lb|2SSHIN|2TAW|1dv z j|3v|@10AEB 1ck bq|2aw|2ii|2ei|2bq ab|1az gc|2FLEURON",
   "2l cq xd cq|2cq xd cq|3|2bk cr|2fn ss|@10B00 0AVESTAN a A|2AA|2AO|2AAO|2AN|2AAN|2AE|2AEE|2E",
   "2EE|2O|2OO|2I|2II|2U|2UU|2KE|2XE|2XYE|2XVE|2GE|2GGE|2GHE|2CE|2JE|2TE|2qn|2DE|2DHE|2TTE|2PE|2FE",
   "2BE|2BHE|2NGE|2NGYE|2NGVE|2NE|2NYE|2NNE|2ME|2HME|2YYE|2YE|2VE|2RE|2LE|2SE|2ZE|2si|2ZHE|2SHYE",
   "2SSHE|2HE|@10B39 1dv z|0TINY bk cr cs bq cq az|0k bk cr cs bq cq az|0cz bk cr cs bq cq az",
   "1bq cq cs bk cr az|1bk RINGS cs bq de az|1bq de cs bk RINGS az|0INSCRIPTIONAL PARTHIAN a nk",
   "3sq|3nr|3rk|3HE|3qm|3qh|3uq|3TETH|3va|3tg|3li|3MEM|3np|3kj|3yx|3PE|3pa|3QOPH|3wz|3lb|3TAW",
   "@10B58 2ck bq|3bk|3r|3aq|3ii|3ei|3bq ab|4ac|1PAHLAVI a nk|3sq|3nr|3rk|3HE|3WAW-AYIN-RESH|3qh",
   "3uq|3TETH|3va|3tg|3li|3MEM-QOPH|3np|3kj|3PE|3pa|3lb|3TAW|@10B78 2ck bq|3bk|3r|3aq|3ii|3ei",
   "3bq ab|4ac|0PSALTER PAHLAVI a nk|3sq|3nr|3rk|3HE|3WAW-AYIN-RESH|3qh|3uq|3va|3tg|3li|3MEM-QOPH",
   "3np|3kj|3PE|3pa|3lb|3TAW|@10B99 2ge z|2bl ge z|2aq cr b fk|5cq|@10BA9 2ck bq|3bk|3r|3aq|3ii",
   "3ei|3bq ab|@10C00 0qo TURKIC a gi A|3fl A|4AE|3gi I|3fl I|4E|3gi O|4OE|3fl OE|3gi AB|3fl AB",
   "3gi AEB|3fl AEB|3gi AG|3fl AG|3gi AEG|3fl AEG|3gi AD|3fl AD|3gi AED|4EZ|3fl EZ|3gi AY|3fl AY",
   "3gi AEY|3fl AEY|3gi AEK|3fl AEK|3gi OEK|3fl OEK|3gi AL|3fl AL|3gi AEL|4ELT|4EM|4AN|4AEN",
   "3fl AEN|3gi ENT|3fl ENT|3gi ENC|3fl ENC|3gi ENY|3fl ENY|4ANG|3gi ENG|3fl AENG|3gi EP|4OP|4IC",
   "4EC|3fl EC|3gi AQ|3fl AQ|3gi IQ|3fl IQ|3gi OQ|3fl OQ|3gi AR|3fl AR|3gi AER|4AS|4AES|4oh|3fl oh",
   "3gi ESH|3fl ESH|3gi AT|3fl AT|3gi AET|3fl AET|3gi OT|4BASH|@10C80 1HUNGARIAN c a A|4AA|4EB",
   "4AMB|4EC|4ENC|4ECS|4ED|4s|4E|4CLOSE E|4EE|=2|4EGY|4EH|4I|4II|4EJ|=|4AK|4UNK|4EL|4ELY|4EM|=",
   "4ENY|4O|4OO|4yn OE|4RUDIMENTA OE|4OEE|4EP|4EMP|4ER|4ey ER|4ES|4ESZ|4ET|4ENT|4ETY|4ECH|4U|4UU",
   "4yn UE|4RUDIMENTA UE|4EV|4EZ|4EZS|4ENT-SHAPED f|4US|@10CC0 2k a A|4AA|4EB|4AMB|4EC|4ENC|4ECS",
   "4ED|4s|4E|4CLOSE E|4EE|=2|4EGY|4EH|4I|4II|4EJ|=|4AK|4UNK|4EL|4ELY|4EM|=|4ENY|4O|4OO|4yn OE",
   "4RUDIMENTA OE|4OEE|4EP|4EMP|4ER|4ey ER|4ES|4ESZ|4ET|4ENT|4ETY|4ECH|4U|4UU|4yn UE|4RUDIMENTA UE",
   "4EV|4EZ|4EZS|4ENT-SHAPED f|4US|@10CFA 2ck bq|3aw|3ii|3hi|3bq ab|4ac|0HANIFI ROHINGYA a A|3BA",
   "3PA|3TA|3mq|3JA|3CA|3HA|3jx|3FA|3DA|3nb|3RA|3RRA|3ZA|3SA|3jb|3KA|3GA|3LA|3MA|3NA|3WA|3KINNA WA",
   "3YA|3KINNA YA|3ja|3jv|3VA|2bm A|3I|3U|3E|3O|2z SAKIN|3NA KHONNA|2f HARBAHAY|3TAHALA|3TANA",
   "3TASSI|@10D30 2br do|3bq|3bk|3r|3aq|3aw|3eq|3ar|3ao|3cf|@10E60 0RUMI br bq|2bk|2r|2aq|2aw|2eq",
   "2ar|2ao|2cf|1ck ii|2ei|2ib|2ma|2hi|2nc|2eb|2lg|2ew|2bq ab|2bk ab|2r ab|2aq ab|2aw ab|2eq ab",
   "2ar ab|2ao ab|2cf ab|1gl bq cc|3ef|3rb|2bk su|@10E80 0YEZIDI a ELIF|2BE|2PE|2PHE|2qn|2SE|2CIM",
   "2CHIM|2CHHIM|2HHA|2XA|2DAL|2ZAL|2RA|2RHA|2ZA|2JA|2SIN|2lb|2yz|2DAD|2TA|2ZE|2EYN|2XHEYN|2FA|2VA",
   "3eo d|2wj|2ui|2KHAF|2GAF|2qv|2MIM|2np|2UM|2qm|2OW|2EW|2HAY|2YOT|2ET|@10EAB 1cg gs z|2xa z",
   "1HYPHENATION z|@10EB0 1a qv b cq j|2YOT b au j|@10F00 0qo SOGDIAN a nk|3m nk|3sq|3m sq|3nr|3HE",
   "3m HE|3qm|3qh|3uq|3va|3tg|3li|3MEM|3np|3m np|5b p he|3kj|3yx|3eo yx|3PE|3pa|3m pa|5b p he",
   "3RESH-AYIN-DALETH|3lb|3TAW|3m TAW|5b p he|2ck bq|3bk|3r|3aq|3aw|3ii|3ei|3ib|3bq ab|2gl bq cc",
   "2ed AYIN-DALETH|@10F30 0SOGDIAN a nk|2sq|2nr|2HE|2qm|2qh|2uq|2va|2tg|2li|2MEM|2np|2kj|2yx|2PE",
   "2pa|2RESH-AYIN|2lb|2TAW|2FETH|2LESH|1kd lb|1cg cq v|2bk cr v|2cq j|2bk cr j|2mb j|3v|2be j|3v",
   "2eg be v|2wz v|2ad v|1ck bq|2ii|2ei|2bq ab|1az bk p BARS|5b cr|2am b cq|2bk kx b cr",
   "2cc am b cq|@10F70 0qo UYGHUR a nk|3sq|3GIMEL-HETH|3qm|3qh|3m uq|3va|3tg|3li|3MEM|3np|3kj|3PE",
   "3pa|3wz|3lb|3TAW|3LESH|2cg cq j|4v|3bk cr j|5v|2az fb|3bk BARS|4cr|3aq cr",
   "@10FB0 0CHORASMIAN a nk|2k nk|2sq|2nr|2rk|2HE|2qm|2CURLED qm|2qh|2uq|2va|2tg|2li|2MEM|2np|2kj",
   "2yx|2PE|2wz|2lb|2TAW|1ck bq|2bk|2r|2aq|2ii|2ei|2bq ab|@10FE0 0ELYMAIC a nk|2sq|2nr|2rk|2HE|2qm",
   "2qh|2uq|2TETH|2va|2tg|2li|2MEM|2np|2kj|2yx|2PE|2pa|2QOPH|2wz|2lb|2TAW|1ed ZAYIN-YODH",
   "@11000 0BRAHMI f ce|2bu|2ds|2nv|2nw|1a A|2AA|2I|2II|2U|2UU|2bx R|3RR|3L|3LL|2E|2AI|2O|2AU|2KA",
   "2jx|2GA|2nn|2ja|2CA|2js|2JA|2rp|2jv|2mq|2if|2nb|2ir|2oi|2TA|2kk|2DA|2no|2NA|2PA|2lp|2BA|2ot",
   "2MA|2YA|2RA|2LA|2VA|2jb|2pv|2SA|2HA|2vk|2qo TAMIL LLLA|4RRA|4NNNA|1bm f AA|3BHATTIPROLU AA|3I",
   "3II|3U|3UU|3bx R|4RR|4L|4LL|3E|3AI|3O|3AU|1eh|1hw|1l hw|1az cq|2l cq|2fn|2tr fb|2LOTUS",
   "@11052 1ck bq|2bk|2r|2aq|2aw|2eq|2ar|2ao|2cf|2ii|2ei|2ib|2ma|2hi|2nc|2eb|2lg|2ew|2bq ab|3ac",
   "1br do|2bq|2bk|2r|2aq|2aw|2eq|2ar|2ao|2cf|1f qo TAMIL eh|1a qo TAMIL ey E|5O",
   "1bm f qo TAMIL ey E|6O|1a qo TAMIL vk|@1107F 1ck ww|0KAITHI f ce|2bu|2ds|1a A|2AA|2I|2II|2U",
   "2UU|2E|2AI|2O|2AU|2KA|2jx|2GA|2nn|2ja|2CA|2js|2JA|2rp|2jv|2mq|2if|2nb|2DDDHA|2ir|2RHA|2oi|2TA",
   "2kk|2DA|2no|2NA|2PA|2lp|2BA|2ot|2MA|2YA|2RA|2LA|2VA|2jb|2pv|2SA|2HA|1bm f AA|3I|3II|3U|3UU|3E",
   "3AI|3O|3AU|1f eh|2jg|1dv f|1ENUMERATION f|1ck f|1ge z|1l ge z|1hw|1l hw|1bm f bx R",
   "@110CD 1ck f j|@110D0 0SORA SOMPENG a SAH|3vi|3BAH|3CAH|3DAH|3GAH|3MAH|3NGAH|3LAH|3NAH|3VAH",
   "3PAH|3YAH|3RAH|3hq|3KAH|3JAH|3NYAH|3AH|3EEH|3IH|3UH|3OH|3EH|3MAE|@110F0 2br do|3bq|3bk|3r|3aq",
   "3aw|3eq|3ar|3ao|3cf|@11100 0CHAKMA f ce|2bu|2ds|1a AA|2I|2U|2E|2KAA|2KHAA|2GAA|2GHAA|2NGAA",
   "2CAA|2CHAA|2JAA|2JHAA|2NYAA|2TTAA|2TTHAA|2DDAA|2DDHAA|2NNAA|2TAA|2THAA|2DAA|2DHAA|2NAA|2PAA",
   "2PHAA|2BAA|2BHAA|2MAA|2YYAA|2YAA|2RAA|2LAA|2WAA|2SAA|2HAA|1bm f A|3I|3II|3U|3UU|3E|3AI|3O|3AU",
   "3OI|1O z|1AU z|1eh|1MAAYYAA|@11136 1br do|2bq|2bk|2r|2aq|2aw|2eq|2ar|2ao|2cf|1ge z|1hw|1l hw",
   "1dy z|1a LHAA|1bm f AA|3EI|1a VAA|@11150 0MAHAJANI a A|2I|2U|2E|2O|2KA|2jx|2GA|2nn|2CA|2js|2JA",
   "2rp|2jv|2mq|2if|2nb|2ir|2oi|2TA|2kk|2DA|2no|2NA|2PA|2lp|2BA|2ot|2MA|2RA|2LA|2VA|2SA|2HA|2RRA",
   "1f jg|1dv f|1ge z|1ed SHRI|@11180 0SHARADA f ce|2bu|2ds|1a A|2AA|2I|2II|2U|2UU|2bx R|3RR|3L",
   "3LL|2E|2AI|2O|2AU|2KA|2jx|2GA|2nn|2ja|2CA|2js|2JA|2rp|2jv|2mq|2if|2nb|2ir|2oi|2TA|2kk|2DA|2no",
   "2NA|2PA|2lp|2BA|2ot|2MA|2YA|2RA|2LA|2vk|2VA|2jb|2pv|2SA|2HA|1bm f AA|3I|3II|3U|3UU|3bx R|4RR",
   "4L|4LL|3E|3AI|3O|3AU|1f eh|2hr|2nv|2nw|1OM|1hw|1l hw|1dv f|1cy|1SANDHI z|1f jg|1bm dt z",
   "1EXTRA ey bm z|1SUTRA z|1bm f za E|1f bf ce|1br do|2bq|2bk|2r|2aq|2aw|2eq|2ar|2ao|2cf|1EKAM",
   "1f ti|1HEADSTROKE|1CONTINUATION f|1ge MARK-1|+|@111E1 0SINHALA hx br bq|3bk|3r|3aq|3aw|3eq|3ar",
   "3ao|3cf|2ck ii|3ei|3ib|3ma|3hi|3nc|3eb|3lg|3ew|3bq ab|4ac|@11200 0KHOJKI a A|2AA|2I|2U|2E|2AI",
   "2O|2AU|2KA|2jx|2GA|2GGA|2nn|2ja|2CA|2js|2JA|2JJA|@11213 2jv|2mq|2if|2nb|2ir|2oi|2TA|2kk|2DA",
   "2DDDA|2no|2NA|2PA|2lp|2BA|2BBA|2ot|2MA|2YA|2RA|2LA|2VA|2SA|2HA|2vk|1bm f AA|3I|3II|3U|3E|3AI",
   "3O|3AU|1f bu|2eh|2jg|2SHADDA|1hw|1l hw|1ur cy|1ge z|1l ge z|1dv f|1f SUKUN|@11280 0MULTANI a A",
   "2I|2U|2E|2KA|2jx|2GA|@11288 2nn|@1128A 2CA|2js|2JA|2JJA|@1128F 2jv|2mq|2if|2nb|2DDDA|2ir|2oi",
   "2TA|2kk|2DA|2no|2NA|2PA|2lp|2BA|@1129F 2ot|2MA|2YA|2RA|2LA|2VA|2SA|2HA|2RRA|2RHA|1ge z",
   "@112B0 0KHUDAWADI a A|2AA|2I|2II|2U|2UU|2E|2AI|2O|2AU|2KA|2jx|2GA|2GGA|2nn|2ja|2CA|2js|2JA",
   "2JJA|2rp|2jv|2mq|2if|2nb|2DDDA|2RRA|2ir|2oi|2TA|2kk|2DA|2no|2NA|2PA|2lp|2BA|2BBA|2ot|2MA|2YA",
   "2RA|2LA|2VA|2jb|2SA|2HA|1f bu|1bm f AA|3I|3II|3U|3UU|3E|3AI|3O|3AU|1f jg|2eh|@112F0 1br do|2bq",
   "2bk|2r|2aq|2aw|2eq|2ar|2ao|2cf|@11300 0GRANTHA f cg bu j|2ce|2bu|2ds|@11305 1a A|2AA|2I|2II|2U",
   "2UU|2bx R|3L|@1130F 2EE|2AI|@11313 2OO|2AU|2KA|2jx|2GA|2nn|2ja|2CA|2js|2JA|2rp|2jv|2mq|2if|2nb",
   "2ir|2oi|2TA|2kk|2DA|2no|2NA|@1132A 2PA|2lp|2BA|2ot|2MA|2YA|2RA|@11332 2LA|2vk|@11335 2VA|2jb",
   "2pv|2SA|2HA|@1133B 0cg BINDU v|0GRANTHA f jg|2hr|1bm f AA|3I|3II|3U|3UU|3bx R|4RR|@11347 3EE",
   "3AI|@1134B 3OO|3AU|1f eh|@11350 1OM|@11357 1AU lf z|@1135D 1f PLUTA|1a VEDIC bu|3l bu|2bx RR",
   "3LL|1bm f bx L|4LL|@11366 0cg GRANTHA br do|3bq|3bk|3r|3aq|3aw|3eq|@11370 2a A|3KA|3NA|3VI|3PA",
   "@11400 0NEWA a A|2AA|2I|2II|2U|2UU|2bx R|3RR|3L|3LL|2E|2AI|2O|2AU|2KA|2jx|2GA|2nn|2ja|2NGHA",
   "2CA|2js|2JA|2rp|2jv|2NYHA|2mq|2if|2nb|2ir|2oi|2TA|2kk|2DA|2no|2NA|2NHA|2PA|2lp|2BA|2ot|2MA",
   "2MHA|2YA|2RA|2RHA|2LA|2LHA|2WA|2jb|2pv|2SA|2HA|1bm f AA|3I|3II|3U|3UU|3bx R|4RR|4L|4LL|3E|3AI",
   "3O|3AU|1f eh|2ce|2bu|2ds|2jg|2hr|2m bu|1OM|1SIDDHI|1hw|1l hw|1du|1GAP ss|1dv f|1br do|2bq|2bk",
   "2r|2aq|2aw|2eq|2ar|2ao|2cf|1l du|1PLACEHOLDER z|@1145D 1INSERTION f|1SANDHI z|1a VEDIC bu",
   "1f nv|2nw|@11480 0TIRHUTA ANJI|1a A|2AA|2I|2II|2U|2UU|2bx R|3RR|3L|3LL|2E|2AI|2O|2AU|2KA|2jx",
   "2GA|2nn|2ja|2CA|2js|2JA|2rp|2jv|2mq|2if|2nb|2ir|2oi|2TA|2kk|2DA|2no|2NA|2PA|2lp|2BA|2ot|2MA",
   "2YA|2RA|2LA|2VA|2jb|2pv|2SA|2HA|1bm f AA|3I|3II|3U|3UU|3bx R|4RR|4L|4LL|3E|3ey E|3AI|3O|3ey O",
   "3AU|1f ce|2bu|2ds|2eh|2jg|2hr|1GVANG|1dv f|1OM|@114D0 1br do|2bq|2bk|2r|2aq|2aw|2eq|2ar|2ao",
   "2cf|@11580 0ti a A|2AA|2I|2II|2U|2UU|2bx R|3RR|3L|3LL|2E|2AI|2O|2AU|2KA|2jx|2GA|2nn|2ja|2CA",
   "2js|2JA|2rp|2jv|2mq|2if|2nb|2ir|2oi|2TA|2kk|2DA|2no|2NA|2PA|2lp|2BA|2ot|2MA|2YA|2RA|2LA|2VA",
   "2jb|2pv|2SA|2HA|1bm f AA|3I|3II|3U|3UU|3bx R|4RR|@115B8 3E|3AI|3O|3AU|1f ce|2bu|2ds|2eh|2jg",
   "2ti|1hw|1l hw|1cy cq|2fb|1REPETITION MARK-1|+2|1qr OF TEXT z|1ge z b TRIDENT s yb ORNAMENTS",
   "6ev mv|4RAYS s ev mv|7l mv|7dm mv|3l de|5b RAYS|3b l mv|4dm mv|4jm mv|4SEPTUPLE mv|4kx s RAYS",
   "6bk ENCLOSURES|6aq ENCLOSURES|1a THREE-CIRCLE eo I|2TWO-CIRCLE eo I|4II|2eo U|1bm f eo U|4UU",
   "@11600 0MODI a A|2AA|2I|2II|2U|2UU|2bx R|3RR|3L|3LL|2E|2AI|2O|2AU|2KA|2jx|2GA|2nn|2ja|2CA|2js",
   "2JA|2rp|2jv|2mq|2if|2nb|2ir|2oi|2TA|2kk|2DA|2no|2NA|2PA|2lp|2BA|2ot|2MA|2YA|2RA|2LA|2VA|2jb",
   "2pv|2SA|2HA|2vk|1bm f AA|3I|3II|3U|3UU|3bx R|4RR|4L|4LL|3E|3AI|3O|3AU|1f bu|2ds|2eh",
   "2ARDHACANDRA|1hw|1l hw|1dv f|1f HUVA|@11650 1br do|2bq|2bk|2r|2aq|2aw|2eq|2ar|2ao|2cf",
   "@11660 0MONGOLIAN vt b bo|1bp vt|1l vt b bo|1dm vt b bo|1vt b l bo|1bp vt b bo|4l bo|1bf vt",
   "3b l bo|1SWIRL vt|3b bo|4l bo|1bl SWIRL vt b l bo|@11680 0TAKRI a A|2AA|2I|2II|2U|2UU|2E|2AI",
   "2O|2AU|2KA|2jx|2GA|2nn|2ja|2CA|2js|2JA|2rp|2jv|2mq|2if|2nb|2ir|2oi|2TA|2kk|2DA|2no|2NA|2PA|2lp",
   "2BA|2ot|2MA|2YA|2RA|2LA|2VA|2jb|2SA|2HA|2RRA|1f bu|2ds|1bm f AA|3I|3II|3U|3UU|3E|3AI|3O|3AU",
   "1f eh|2jg|1a hx jx|1dv f|@116C0 1br do|2bq|2bk|2r|2aq|2aw|2eq|2ar|2ao|2cf|@11700 0AHOM a KA",
   "2jx|2ja|2NA|2TA|2eo TA|2PA|2lp|2BA|2MA|2JA|2js|2kk|2RA|2LA|2SA|2jv|2HA|2A|2DA|2no|2GA|2eo GA",
   "2nn|2ot|2rp|2eo BA|@1171D 1en f bd LA|4RA|4LIGATING RA|1bm f A|3AA|3I|3II|3U|3UU|3E|3AW|3O|3AI",
   "3AM|1f KILLER|@11730 1br do|2bq|2bk|2r|2aq|2aw|2eq|2ar|2ao|2cf|1ck ii|2ei|1f k ge|2ge|2RULAI",
   "1u VI|1a CA|2mq|2if|2nb|2ir|2oi|2vk|@11800 0DOGRA a A|2AA|2I|2II|2U|2UU|2E|2AI|2O|2AU|2KA|2jx",
   "2GA|2nn|2ja|2CA|2js|2JA|2rp|2jv|2mq|2if|2nb|2ir|2oi|2TA|2kk|2DA|2no|2NA|2PA|2lp|2BA|2ot|2MA",
   "2YA|2RA|2LA|2VA|2jb|2pv|2SA|2HA|2RRA|1bm f AA|3I|3II|3U|3UU|3bx R|4RR|3E|3AI|3O|3AU|1f bu|2ds",
   "2eh|2jg|1dv f|@118A0 0WARANG CITI c a NGAA|4A|4WI|4YU|4YA|4YO|4II|4UU|4E|4O|4ANG|4GA|4KO|4ENY",
   "4YUJ|4UC|4ENN|4ODD|4TTE|4NUNG|4DA|4AT|4AM|4BU|4PU|4HIYO|4HOLO|4HORR|4HAR|4SSUU|4SII|4VIYO",
   "2k a NGAA|4A|4WI|4YU|4YA|4YO|4II|4UU|4E|4O|4ANG|4GA|4KO|4ENY|4YUJ|4UC|4ENN|4ODD|4TTE|4NUNG|4DA",
   "4AT|4AM|4BU|4PU|4HIYO|4HOLO|4HORR|4HAR|4SSUU|4SII|4VIYO|2br do|3bq|3bk|3r|3aq|3aw|3eq|3ar|3ao",
   "3cf|2ck ii|3ei|3ib|3ma|3hi|3nc|3eb|3lg|3ew|@118FF 2OM|0DIVES AKURU a A|3AA|3I|3II|3U|3UU|3E",
   "@11909 3O|@1190C 3KA|3jx|3GA|3nn|3ja|3CA|3js|3JA|@11915 3jv|3mq|@11918 3nb|3ir|3oi|3TA|3kk|3DA",
   "3no|3NA|3PA|3lp|3BA|3ot|3MA|3YA|3YYA|3RA|3LA|3VA|3jb|3pv|3SA|3HA|3vk|3ZA|2bm f AA|4I|4II|4U",
   "4UU|4E|@11937 4AI|4O|@1193B 2f bu|3ce|3HALANTA|2eh|2PREFIXED NASAL f|2bd YA|2q RA|2bd RA|2f jg",
   "2l hw|2GAP ss|2qr OF TEXT z|@11950 2br do|3bq|3bk|3r|3aq|3aw|3eq|3ar|3ao|3cf",
   "@119A0 0NANDINAGARI a A|2AA|2I|2II|2U|2UU|2bx R|3RR|@119AA 2E|2AI|2O|2AU|2KA|2jx|2GA|2nn|2ja",
   "2CA|2js|2JA|2rp|2jv|2mq|2if|2nb|2ir|2oi|2TA|2kk|2DA|2no|2NA|2PA|2lp|2BA|2ot|2MA|2YA|2RA|2LA",
   "2VA|2jb|2pv|2SA|2HA|2vk|2RRA|1bm f AA|3I|3II|3U|3UU|3bx R|4RR|@119DA 3E|3AI|3O|3AU|1f bu|2ds",
   "2eh|2hr|2ti|1HEADSTROKE|1bm f za E|@11A00 0ZANABAZAR al a A|2bm f I|4UE|4U|4E|4OE|4O|4AI|4AU",
   "4as I|3lf z|2a KA|3jx|3GA|3nn|3ja|3CA|3js|3JA|3jv|3mq|3if|3nb|3ir|3oi|3TA|3kk|3DA|3no|3NA|3PA",
   "3lp|3BA|3ot|3MA|3uj|3us|3DZA|3DZHA|3zv|3ZA|3-A|3YA|3RA|3LA|3VA|3jb|3pv|3SA|3HA|3KSSA|2m en z",
   "2f eh|3ce|4b bo|3le b bo|3bu|3ds|2CLUSTER-INITIAL a RA|2CLUSTER-FINAL a YA|4RA|4LA|4VA|2q qx z",
   "2CLOSING qx z|2z tk|3tl|3l tl|3eg tk|2q DOUBLE-LINED qx z|2CLOSING DOUBLE-LINED qx z",
   "2SUBJOINER|@11A50 0SOYOMBO a A|1bm f I|3UE|3U|3E|3O|3OE|3AI|3AU|3bx R|4L|2lf z|1a KA|2jx|2GA",
   "2nn|2ja|2CA|2js|2JA|2rp|2jv|2mq|2if|2nb|2ir|2oi|2TA|2kk|2DA|2no|2NA|2PA|2lp|2BA|2ot|2MA|2uj",
   "2us|2DZA|2zv|2ZA|2-A|2YA|2RA|2LA|2VA|2jb|2pv|2SA|2HA|2KSSA|1f nv|2nw|1CLUSTER-INITIAL a RA|3LA",
   "3jb|3SA|1m en f G|4K|4NG|4D|4N|4B|4M|4R|4L|4SH|4S|4-A|1f bu|2ds|1sr z|1SUBJOINER|1z tk|2tl",
   "2l tl|2PLUTA|1qx z b mi s SUN s dm FLAME|8FLAME|7|1TERMINAL MARK-1|+",
   "@11AB0 0CANADIAN SYLLABICS NATTILIK HI|3HII|3HO|3HOO|3HA|3HAA|3SHRI|3SHRII|3SHRO|3SHROO|3SHRA",
   "3SHRAA|2SPE|2SPI|2SPO|2SPA|0PAU CIN HAU a PA|4KA|4LA|4MA|4DA|4ZA|4VA|4ja|4HA|4GA|4jx|4SA|4BA",
   "4CA|4TA|4kk|4NA|4lp|4RA|4FA|4js|4A|4E|4I|4O|4U|4UA|4IA|4m P|5K|5T|5M|=|5L|5W|5NG|5Y|3mz em eg",
   "5|3SANDHI gf ex|3mz em eg m|5m|3SANDHI gf ex m|4em eg|5|5eg m|5m|3MID-LEVEL em|3gf ex gu",
   "3MID-LEVEL em eg m|5m|3LOW-FALLING em eg|5|3gf ex|3LOW-FALLING em eg m|5m|3gf ex m",
   "@11C00 0BHAIKSUKI a A|2AA|2I|2II|2U|2UU|2bx R|3RR|3L|@11C0A 2E|2AI|2O|2AU|2KA|2jx|2GA|2nn|2ja",
   "2CA|2js|2JA|2rp|2jv|2mq|2if|2nb|2ir|2oi|2TA|2kk|2DA|2no|2NA|2PA|2lp|2BA|2ot|2MA|2YA|2RA|2LA",
   "2VA|2jb|2pv|2SA|2HA|1bm f AA|3I|3II|3U|3UU|3bx R|4RR|4L|@11C38 3E|3AI|3O|3AU|1f ce|2bu|2ds|2eh",
   "2hr|1hw|1l hw|1ur cy|1GAP FILLER-1|+|@11C50 1br do|2bq|2bk|2r|2aq|2aw|2eq|2ar|2ao|2cf|1ck bq",
   "2bk|2r|2aq|2aw|2eq|2ar|2ao|2cf|2ii|2ei|2ib|2ma|2hi|2nc|2eb|2lg|2ew|1HUNDREDS UNIT z",
   "@11C70 0MARCHEN qx z|1z tl|1a KA|2jx|2GA|2ja|2CA|2js|2JA|2jv|2TA|2kk|2DA|2NA|2PA|2lp|2BA|2MA",
   "2uj|2us|2DZA|2WA|2zv|2ZA|2-A|2YA|2RA|2LA|2jb|2SA|2HA|2A|@11C92 1rr a KA|3jx|3GA|3ja|3CA|3js",
   "3JA|3jv|3TA|3kk|3DA|3NA|3PA|3lp|3BA|3MA|3uj|3us|3DZA|3WA|3zv|3ZA|@11CA9 3YA|3RA|3LA|3jb|3SA",
   "3HA|3A|1bm f AA|3I|3U|3E|3O|1f bu|2ce|@11D00 0MASARAM GONDI a A|3AA|3I|3II|3U|3UU|3E",
   "@11D08 3AI|3O|@11D0B 3AU|3KA|3jx|3GA|3nn|3ja|3CA|3js|3JA|3rp|3jv|3mq|3if|3nb|3ir|3oi|3TA|3kk",
   "3DA|3no|3NA|3PA|3lp|3BA|3ot|3MA|3YA|3RA|3LA|3VA|3jb|3pv|3SA|3HA|3vk|3KSSA|3JNYA|3TRA|2bm f AA",
   "4I|4II|4U|4UU|4bx R|@11D3A 4E|@11D3C 4AI|4O|@11D3F 4AU|2f bu|3ds|3jg|3le|3HALANTA|2eh|2REPHA",
   "2RA-KARA|@11D50 2br do|3bq|3bk|3r|3aq|3aw|3eq|3ar|3ao|3cf|@11D60 0GUNJALA GONDI a A|3AA|3I|3II",
   "3U|3UU|@11D67 3EE|3AI|@11D6A 3OO|3AU|3YA|3VA|3BA|3ot|3MA|3KA|3jx|3TA|3kk|3LA|3GA|3nn|3DA|3no",
   "3NA|3CA|3js|3mq|3if|3vk|3JA|3rp|3nb|3ir|3ja|3PA|3lp|3HA|3RA|3SA|2bm f AA|4I|4II|4U|4UU",
   "@11D90 4EE|4AI|@11D93 4OO|4AU|2f bu|3ds|2eh|2OM|@11DA0 2br do|3bq|3bk|3r|3aq|3aw|3eq|3ar|3ao",
   "3cf|@11EE0 0MAKASAR a KA|2GA|2ja|2PA|2BA|2MA|2TA|2DA|2NA|2CA|2JA|2jv|2YA|2RA|2LA|2VA|2SA|2A",
   "1ANGKA|1bm f I|3U|3E|3O|1PASSIMBANG|1qr OF ge|@11FB0 0LISU a YHA",
   "@11FC0 0TAMIL gl bq THREE-HUNDRED-AND-TWENTIETH|3zb|3EIGHTIETH|3SIXTY-FOURTH|3FORTIETH|3zm",
   "2r EIGHTIETHS|3SIXTY-FOURTHS|2bq TWENTIETH|3SIXTEENTH-1|+|3TENTH|3gw|2r TWENTIETHS|3xf",
   "2bq FIFTH|3ef|3HALF-1|+|2r ia|2DOWNSCALING FACTOR KIIZH|1f NEL|2CEVITU|2AAZHAAKKU|2UZHAKKU",
   "2MUUVUZHAKKU|2KURUNI|2PATHAKKU|2MUKKURUNI|2KAACU|2PANAM|2PON|2VARAAKAN|2PAARAM|2KUZHI|2VELI",
   "1WET CULTIVATION f|1DRY CULTIVATION f|1LAND f|1SALT PAN f|1TRADITIONAL CREDIT f|2ck f",
   "1CURRENT f|1s ODD f|1SPENT f|1TOTAL f|1IN POSSESSION f|1STARTING km f|1f MUTHALIYA|2VAKAIYARAA",
   "@11FFF 1az qr OF TEXT|0CUNEIFORM f A|3ap A|4BAD|4se ih|4HA|4wp|4LAGAR gx|4MUSH|4SAG|2A2|2AB",
   "3ap ASH2|4DUN3 gx|4GAL|4se ih|4HA|4wp gx|4IMIN|4sm|4SHESH|4U bw U bw U|3gx|2AB2|3ap BALAG",
   "4se ih|4ME bw EN|4SHA3|4ub|2AD|2AK|3ap ERIN2|4SHITA bw uc|2AL|3ap AL|4DIM2|4uc|4HA|4KAD3|4KI",
   "4si|4USH|2ALAN|2nk|2AMAR|3ap si|2AN|3cs AN|3r ap|3bw NAGA pp AN bw NAGA|5dx|2ANSHE|2APIN|2ARAD",
   "3ap KUR|2ARKAB|2ASAL2|2oh|3ZIDA ih|3KABA ih|3cs oh TUG2 cs TUG2 TUG2 cs TUG2 PAP|5cs oh",
   "7dn oh cs oh cs oh|2ASH2|2ASHGAB|2BA|2BAD|2BAG3|2BAHAR2|2BAL|3cs BAL|2BALAG|2fb|2BARA2|2BI",
   "3ap A|4we|4wp gx|2BU|3cs BU AB|5UN|3dn BU|2BULUG|3cs BULUG|2BUR|2BUR2|2DA|2DAG",
   "3KISIM5 ap A bw MASH|5AMAR|5BALAG|5BI|5GA|6bw MASH|5GI|5GIR2|5GUD|5HA|5IR|6bw LU|5KAK|5LA|5LU",
   "6bw MASH2|5LUM|5NE|5PAP bw PAP|5SI|5ub|5U2 bw GIR2|5USH|2DAM|2DAR|2DARA3|+|2DI|2DIB|2DIM",
   "3ap si|2DIM2|2DIN|3or U gx oq|2oq|2DU|3cs DU|3gx|3rz|2DUB|3ap ESH2|2DUB2|2DUG|2DUGUD|2DUH|2DUN",
   "2DUN3|3gx|4gx|2DUN4|2DUR2|2E|3ap PAP|3cs E np cs np|2E2|3ap A bw HA bw DA|4we|4MI|4SAL|4si|4U",
   "2EDIN|2EGIR|2EL|2EN|3ap se|5ih|4ME|3dn EN|3pp EN|3dx|2EREN|2ERIN2|2ESH2|2EZEN|3ap A|5bw LAL",
   "7ap LAL|4AN|4BAD|4DUN3 gx|6gx|4HA|5gx|4wp gx|4or|5dx|4KU3|4LA|4LAL ap LAL|4LI|4LU|4U2|4UD|2GA",
   "3gx|2GA2|3ap A bw DA bw HA|6HA|6wp|4AB2 ih bw TAB|4AN|4oh|4ASH2 bw GAL|4BAD|4fb bw RA|4BUR",
   "5bw RA|4DA|4DI|4DIM ap si|4DUB|4EL|5bw LA|4EN|5ap se ih|4se ih|4we|4GI|4GI4|5bw A|4GIR2 bw SU",
   "4HA bw LU bw ESH2|4HAL|5bw LA|4HI bw LI|4HUB2|4wp gx|4ISH bw HU bw oh|4KAK|4or|4KID|5bw LAL",
   "4KU3 bw AN|4LA|4ME bw EN|4MI|4np|5cs np|4PA|4SAL|4SAR|4si|5bw TUR|4SHID|4SUM|4ub|4U|4UD|5bw DU",
   "3cs GA2|2GABA|3dn GABA|2GAD|3cs GAD we cs we|2GAL|3GAD cs GAD we cs we|2GALAM|2GAM|=|2se|3ih",
   "3cs se|3dn se|2we|2GAR3|2GASHAN|2GESHTIN|3ap KUR|2GI|3ap E|4U|3dn GI|2GI4|3cs GI4|3dn GI4",
   "2GIDIM|2GIR2|3gx|2GIR3|3ap A bw wp|4se ih|4wp|4LU bw wp|4PA|2GISAL|2uc|3dn uc|3ap BAD|4ub|3ih",
   "2GU|3dn GU|2GU2|3ap KAK|5ap wp gx|4np|4SAL bw TUG2|3gx|2GUD|3ap A bw KUR|4KUR|3cs GUD LUGAL",
   "2GUL|=|3ap si|2GUR|2GUR7|2GURUN|2GURUSH|2HA|3ih|3gx|2HAL|2HI|3ap oh|4ASH2|4BAD|4oq|4GAD|4KIN",
   "4np|4si|4U|2HU|2HUB2|3ap AN|4HAL|4or|4LISH|4UD|2HUL2|2I|3A|2IB|2IDIM|3cs IDIM BUR|5dx|2IG|2wp",
   "3DIB|3RI|3cs wp SHIR cs SHIR UD cs UD|3gx|2IL|3ap se ih|2IL2|2IM|3ap ub|3dn IM|3pp IM|3dx",
   "2IMIN|2IN|2IR|2ISH|2KA|3ap A|4AD|5bw KU3|4ASH2|4BAD|4BALAG|4fb|4BI|4ERIN2|4ESH2|4GA|4GAL",
   "4se ih|4we|5bw SHA3 bw A|4GI|4GIR2|4uc bw SAR|5dn uc|4GU|4GUR7|4wp|4IM|4KAK|4KI|4KID|4LI|4LU",
   "4ME|5bw DU|6GI|6TE|4MI|5bw NUNUZ|4NE|4np|4PI|4RU|4SA|4SAR|4jb|4si|4SHID|4SHU|4SIG|4SUHUR|4TAR",
   "4U|4U2|4UD|4UMUM ap PA|4USH|4ZI|2KA2|3dn KA2|2KAB|2KAD2|+3|3cs KAD5|2KAK|3ap wp gx|2KAL",
   "3ap BAD|3dn KAL|2KAM2|2KAM4|2or|3sm ap U cs sm ap U|3cs or sm ap U cs sm ap U|2KESH2|2KI",
   "3ap BAD|4U|4UD|2KID|2KIN|2KISAL|2KISH|2KISIM5|3cs KISIM5|2KU|3cs HI ap ASH2 KU cs HI ap ASH2",
   "2KU3|+|3gu d|2KU7|2KUL|3gx|2KUN|2KUR|3pp KUR|2KUSHU2|2KWU318|2LA|2sm|3ap A|5bw DA bw HA|6we",
   "6LAL|4AL|4AN|4oh ZIDA ih|4BAD|4BI|4DAR|4EN|4GA|4we|4GUD|5bw GUD|4HA|4HAL|4HI ap np|4wp gx|4IM",
   "5bw HA|6LU|4KI|4KIN|4KU3|4KUL|5bw HI bw A|4sm|4LISH|4LU|4LUL|4ME|5bw EN|4MUSH|4NE|4si bw SUM",
   "4SHITA bw uc bw ERIN2|7ih|4SHU2|5bw SHU2|4SUM|4TAG|4ub|4TE bw A bw SU bw NA|4U|5bw A|6U bw U",
   "4U2 bw oh|4UD|4USH|3dx|2LAGAR|3ap si|5bw SUM|3gx|4cs LAGAR gx si|2LAHSHU|2LAL|3ap LAL|2qv",
   "3ap KUR|5bw RU|2LI|2LIL|2LIMMU2|2LISH|2LU|3ap BAD|2LU2|3ap AL|4BAD|4ESH2|5ih|4se ih|4HI ap BAD",
   "4IM|4KAD2|+|5bw oh|4KI|4LA bw oh|4sm|4ME bw EN|4NE|4NU|4SI bw oh|4SIK2 bw BU|4TUG2|3ih|3dn LU2",
   "3pp LU2|3dx|3rz|2LU3|2LUGAL|3cs LUGAL|3pp LUGAL|3rz|2LUH|2LUL|=|3cs LUM|5we cs we|2MA|3ap ub",
   "3gx|2MA2|2MAH|2MAR|2MASH|2MASH2|2ME|2MES|2MI|2MIN|2MU|3cs MU|2MUG|3gx|2MUNSUB|2MURGU2|2MUSH",
   "3ap A|4KUR|4ZA|3cs MUSH|5ap A bw NA|3dn MUSH|2MUSH3|3ap A|5bw DI|4DI|3gx|2NA|2NA2|2NAGA|3bf",
   "3ap SHU ih|3pp NAGA|2NAGAR|2NAM NUTILLU|3|2NAM2|2NE|3ap A|4UD|3rz|2NI|3ap E|2NI2|2NIM",
   "3ap se ih|4we bw se ih|2NINDA2|3ap AN|4oh|5bw oh|4GUD|4ME bw se ih|4NE|4np|4si|5bw A AN|6oh",
   "7bw oh|4U2 bw oh|4USH|2NISAG|2NU|2NU11|2np|3LAGAR ap we|5MASH|5SAL|6cs np LAGAR ap SAL|5USH",
   "3ih|3cs np|3dn np|5LAGAR cs LAGAR|2NUNUZ|3AB2 ap ASHGAB|5BI|5DUG|5GUD|5wp gx|5KAD3|5LA|5NE",
   "5SILA3|5U2|3KISIM5 ap BI|6U|2PA|2PAD|2PAN|2PAP|2PESH2|2PI|3ap A|4AB|4BI|4BU|4E|4I|4IB|4U|4U2",
   "3dn PI|2PIRIG|3ap KAL|4UD|4ZA|3pp PIRIG|2RA|2RAB|2RI|2RU|2SA|2SAG NUTILLU|3|3ap A|4DU|4DUB|4HA",
   "4KAK|4KUR|4LUM|4MI|4np|4SAL|4SHID|4TAB|4U2|4UB|4UM|4UR|4USH|3cs SAG|3gx|2SAL|3sm ap ASH2",
   "2SANGA2|2SAR|2jb|2SHA3|3ap A|4BAD|4uc|4NE|4SHU2|4TUR|4U|5bw A|2SHA6|2SHAB6|2vy|2si|3HU",
   "3cs si GAD cs GAD we cs we|5TAB cs TAB we cs we|2SHEG9|2SHEN|2SHESH|2SHESH2|2SHESHLAM|2SHID",
   "3ap A|4IM|2SHIM|3ap A|4BAL|4BULUG|4DIN|4we|4wp|5gx|4KUSHU2|4LUL|4MUG|4SAL|2SHINIG|2SHIR|3ih",
   "3cs SHIR BUR cs BUR|2SHITA|2SHU|3cs bf SHU|2SHU2|2SHUBUR|2SI|3gx|2SIG|2SIG4|3cs SIG4 SHU2",
   "2SIK2|2SILA3|2SU|3cs SU|2SUD|2SUD2|2SUHUR|2SUM|2SUMASH|2SUR|2SUR9|2TA|3cd|3ap HI|4MI|3gx|2TAB",
   "3cs TAB NI cs NI oq cs oq|3dx|2TAG|3ap BI|4GUD|4si|4SHU|4TUG2|4UD|2ub|2TAR|2TE|3gx|2TI|3ih",
   "2TIL|2TIR|3ap ub|3cs TIR|5GAD cs GAD we cs we|2TU|2TUG2|2TUK|2TUM|2TUR|3cs TUR ZA cs ZA|2U",
   "3GUD|3U U|3cs U PA cs PA we cs we|5SUR cs SUR|5U as cs U as|2U2|2UB|2UD|3KUSHU2|3ap BAD|4MI",
   "4U bw U bw U|9gx|3gx|3rz|4ap BAD|2UDUG|2UM|3ap sm|4ME bw DA|4SHA3|4U|2UMBIN|2UMUM|3ap or|4PA",
   "2UN|3gx|2UR|3dn UR|3rz|2UR2|3ap A bw HA|6NA|4AL|4HA|4np|4U2|5bw oh|6BI|2UR4|2URI|2URI3|2URU",
   "3ap A|4ASHGAB|4fb|4DUN|4GA|4GAL|4se ih|4we|4GU|4HA|4wp|4IM|4ISH|4KI|4LUM|4MIN|4PA|4si|4SIG4",
   "4TU|4U bw GUD|4UD|4URUDA|2URUDA|3ap U|2USH|3ap A|4KU|4KUR|4ub|2USHX|2USH2|2USHUMX|2UTUKI|2UZ3",
   "3ap or|2UZU|2ZA|3ih|3dx ap KUR|2ZAG|2ZAMX|2ZE2|2ZI|3cs ZI|2ZI3|2ZIB|3KABA ih|2ZIG|2ZIZ2|2ZU",
   "2ZU5|3ap A|2ZUBUR|2ZUM|2KAP ELAMITE|2AB ap np|2AB2 ap A|2AMAR ap KUG|2DAG KISIM5 ap U2 bw MASH",
   "2DAG3|2oq bw SHU|2DUB ap si|2EZEN ap GUD|4si|2GA2 ap AN bw KAK bw A|4ASH2|2GE22|2GIG|2HUSH",
   "2KA ap ANSHE|4ASH3|4uc|4GUD|4HI ap ASH2|4LUM|4PA|4SHUL|4TU|4UR2|2sm ap GI|2LU2 rz ap BAD",
   "3ap ESH2 bw LAL|4SHU|2MESH|2MUSH3 ap ZA|2NA4|2NIN|2NIN9|2NINDA2 ap BAL|4GI|2NU11 bp ew ci",
   "2PESH2 cd|2PIR2|2SAG ap wp gx|2TI2|2UM ap ME|2U U|@12400 1NUMERIC f bk oh|3r oh|3aq oh|3aw oh",
   "3eq oh|3ar oh|3ao oh|3cf oh|3r oq|3aq oq|3aw oq|3eq oq|3ar oq|3ao oq|3cf oq|3aq U|3aw U|3eq U",
   "3ar U|3ao U|3cf U|3bq yo|3bk yo|3r yo|3aq yo|3aw yo|3eq yo|3ar yo|3ao yo|3cf yo|3bq GESHU",
   "3bk GESHU|3r GESHU|3aq GESHU|3aw GESHU|3bk vy|3r vy|5gu d|3aq vy|3aw vy|3eq vy|3ar vy|3ao vy",
   "3cf vy|3bq SHARU|3bk SHARU|3r SHARU|5gu d|3aq SHARU|3aw SHARU|3vy ap GAL bw oq|7MIN|3bq BURU",
   "3bk BURU|3r BURU|5gu d|3aq BURU|3aw BURU|3r gu d ESH16|6ESH21|3aq gu d LIMMU|6LIMMU4|6LIMMU A",
   "=|3eq gu d ASH9|3ar gu d IMIN3|6IMIN A|=|3ao gu d USSU|6USSU3|3cf gu d ILIMMU|6ILIMMU3|+",
   "6ILIMMU A|3bk oh ih|3r oh ih|3aq oh ih|3aw oh ih|3eq oh ih|3bq BAN2|3bk BAN2|3r BAN2|3aq BAN2",
   "5gu d|3aw BAN2|5gu d|3NIGIDAMIN|3NIGIDAESH|3bq ESHE3|3bk ESHE3|3bq rb oq|3bk su oq",
   "3aw SIXTHS oq|3bq rb gu d A|3bk su gu d A|3bq gw oh|4ef oh|3qo ASSYRIAN bq SIXTH|6ef",
   "3bq ef GUR|4cc GUR|3ELAMITE bq rb|4bk su|4ma|4hi|3aq U gu d|3aw U gu d|3eq U gu d|3ar U gu d",
   "3ao U gu d|3cf U gu d|@12470 1az f qo ASSYRIAN ur wm|3p hl|3co hl|4TRICOLON|4QUADCOLON",
   "@12480 1f AB ap np ih|4SHU2|2AD ap ESH2|2BAD ap oq ih|2BAHAR2 ap AB2|4NI|4ZA|2BU cs BU ap NA2",
   "2DA ap ub|2DAG ap KUR|2DIM ap wp|4U U U|2DIM2 ap UD|2DUG ap ANSHE|4oh|5AT n|4DIN|4DUN|4ERIN2",
   "4GA|4GI|4GIR2 gx|4uc|4HA|4HI|4wp gx|4or|4KUR|4KUSHU2|5bw or|4LAK-020|4qv|5ap KUR|4LUH bw uc",
   "4MASH|4MES|4MI|4NI|4PI|4si|4SI gx|2E2 ap KUR|4PAP|2ERIN2 X|2ESH2 dn ESH2|2EZEN rz ap oh|5HI",
   "5wp gx|5LA|5LAL|5ME|5MES|5SU|3ap SU|2GA2 ap BAHAR2|4DIM gx|4DUG ap wp gx|6or|4EREN|4GA",
   "4we bw DI|6NE|4HA bw A|4KUSHU2 bw or|4qv|5ap KUR|4LUH|4MUSH|4NE|5bw E2|6GI|4SHIM|4ZIZ2",
   "2GABA bp ew ci|2GESHTIN ap U|2uc ap uc dn uc|2GU2 ap wp gx|2GUD bw uc ap ub|2HA ih gx",
   "2HI ap oh cs HI ap oh|2KA ap BU|4KA|4U U U|4UR|2sm ap ZU cs ZU|2LAK-003|2LAK-021|2LAK-025",
   "2LAK-030|2LAK-050|+|2LAK-062|2LAK-079 cs LAK-079 gx|2LAK-080|2LAK-081 cs LAK-081|2LAK-092",
   "2LAK-130|2LAK-142|2LAK-210|2LAK-219|+|2LAK-225|2LAK-228|2LAK-238|2LAK-265|+|2LAK-343|2LAK-347",
   "+|2LAK-383|+|2LAK-390|2LAK-441|2LAK-449|3ap GU|4wp|4PAP bw LU3|6PAP bw LU3|4U2 bw BA|2LAK-450",
   "2LAK-457|2LAK-470|2LAK-483|2LAK-490|2LAK-492|+|2LAK-495|2LAK-550|2LAK-608|2LAK-617|3ap oh|4BAD",
   "4DUN3 gx gx|4KU3|4LA|4TAR|4TE|4U2|4UD|4URUDA|2LAK-636|2LAK-648|3ap DUB|4GA|4wp|5gx|4NI",
   "4PAP bw PAP bw LU3|4SHESH bw KI|4UD|4URUDA|2LAK-724|2LAK-749|2LU2 gx ap oh|3ap oq|4HAL|4PAP",
   "5bw PAP bw LU3|4ub|2MI bw ZA7|2MUSH cs MUSH ap GA|6KAK|2NINDA2 ap DIM gx|4uc|4GUL|4HI|4KESH2",
   "4LAK-050|4MASH|4PAP bw PAP|4U|5bw U|4URUDA|2SAG gx ap HA|3ap EN|4si AT n|4ub|2SHA6 ih",
   "2si cs si|3bw HUB2|4NAM2|4SAR|2SHU2 bw DUG ap NI|4E2 ap AN|2SI ap ub|2ub bw SAG|2TUM ap se ih",
   "4r oq|2UR2 bf|3ap UD|2URU ap DARA3|4LAK-668|4LU3|2ZA7|2ZU cs ZU bw SAR|2ZU5 ap r oq ih",
   "@12F90 0CYPRO-MINOAN f CM001|+|2CM004|+8|2CM012B|2CM013|2CM015|2CM017|2CM019|2CM021|2CM023|+7",
   "2CM033|+8|2CM044|2CM046|+|2CM049|+7|2CM058|+6|2CM066|+9|2CM075B|2CM076|2CM078|+14|2CM094|+11",
   "2CM107|+3|2CM112|2CM114|2CM301|+"]

end CodeLint.Text
