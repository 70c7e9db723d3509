/-!
Names of characters: the scripts beyond them, music and mathematics.
The entries are explained where the names are looked up.
-/

namespace CodeLint.Text

set_option maxRecDepth 20000

def signNames : List String :=
  ["@13000 0EGYPTIAN HIEROGLYPH A001|+4|=|2A006|=2|2A007|+7|=|2A015|+2|=|2A018|+14|=|2A033|+7|=",
   "2A041|+|=|2A043|=|2A044|+|=|2A046|+24|2B001|+4|=|2B006|+3|2C001|+|=3|2C003|+7|=|2C011|+13",
   "2D001|+7|=|2D009|+18|=|2D028|+3|=|2D032|+2|=|2D035|+11|=|2D047|+|=|2D049|+|=9|2D051|+|=|2D053",
   "+|=|2D055|+12|=8|2E001|+7|=|2E009|=|2E010|+6|=|2E017|=|2E018|+2|=|2E021|+7|=|2E029|+5|=|2E036",
   "+2|2F001|=|2F002|+11|=|2F014|+7|=|2F022|+9|=|2F032|+5|=|2F038|=|2F039|+6|=|2F046|=|2F047|=",
   "2F048|+3|=3|2F052|+|2G001|+5|=|2G007|=2|2G008|+3|=|2G012|+8|=|2G021|+5|=|2G027|+9|=|2G037|=",
   "2G038|+5|=|2G044|+|=|2G046|+8|2H001|+5|=|2H007|+|2I001|+4|=|2I006|+3|=|2I010|=|2I011|=|2I012",
   "+3|2K001|+7|2L001|+|=|2L003|+3|=|2L007|+|2M001|=2|2M002|+|=|2M004|+6|=|2M011|+|=8|2M013|+2|=",
   "2M016|=|2M017|=|2M018|+4|=|2M023|+|=|2M025|+3|=|2M029|+2|=|2M032|+|=2|2M034|+6|=|2M041|+3",
   "2N001|+17|=2|2N019|+6|=|2N026|+7|=|2N034|=|2N035|=|2N036|+|=|2N038|+4|2NL001|+4|=|2NL006|+11|=",
   "2NL018|+2|2NU001|+9|=|2NU011|=|2NU012|+6|=|2NU019|+3|=|2O001|=|2O002|+3|=|2O006|=6|2O007|+3|=3",
   "2O011|+8|=|2O020|=|2O021|+3|=|2O025|=|2O026|+3|=|2O030|=|2O031|+2|=|2O034|+2|=4|2O037|+13|=2",
   "2O051|2P001|=|2P002|+|=|2P004|+7|2Q001|+6|2R001|+|=|2R003|=2|2R004|+6|=|2R011|+5|=|2R017|+12",
   "2S001|+|=|2S003|+3|=|2S007|+7|=2|2S015|+2|=|2S018|+8|=2|2S027|+8|=|2S036|+10|2T001|+2|=|2T004",
   "+3|=|2T008|=|2T009|=|2T010|+|=|2T012|+4|=|2T017|+15|=|2T033|=|2T034|+2|2U001|+5|=2|2U007|+16|=",
   "2U024|+5|=|2U030|+2|=|2U033|+9|2V001|=9|2V002|=|2V003|+4|=2|2V008|+3|=3|2V012|=2|2V013|+7|=12",
   "2V021|+2|=|2V024|+4|=|2V029|=|2V030|=|2V031|=|2V032|+|=|2V034|+3|=|2V038|+2|=|2W001|+2|=|2W004",
   "+5|=|2W010|=|2W011|+3|=|2W015|+2|=|2W018|=|2W019|+5|=|2W025|2X001|+3|=2|2X005|+|=|2X007|+|=",
   "2Y001|=|2Y002|+6|2Z001|+|=4|2Z003|=2|2Z004|=|2Z005|=|2Z006|+9|=9|2Z016|=8|2AA001|+6|=2|2AA008",
   "+24|@13430 2p ww|2x ww|2INSERT AT pu zt|4ft zt|4pu qr|4ft qr|2hk af|2zq SEGMENT|2qr SEGMENT",
   "@14400 0ANATOLIAN HIEROGLYPH A001|+9|=|2A011|+15|=|2A027|+12|=|2A040|+|=|2A042|+3|=|2A046|=2",
   "2A047|+19|=3|2A067|+30|=|2A098|=|2A099|+|=|2A101|=|2A102|=|2A103|+|=3|2A105|=2|2A106|+|=3",
   "2A108|+2|=2|2A111|+4|=|2A116|+9|=|2A126|+9|=|2A136|+66|=2|2A203|+4|=|2A208|+|=|2A210|+5|=",
   "2A216|=|2A217|+10|=|2A228|+39|=|2A268|+21|=|2A290|+4|=|2A295|+4|=|2A300|+9|=|2A310|+19|=|2A330",
   "+|2A332A|=2|2A333|+3|=3|2A337|+22|=|2A360|+4|=|2A365|+3|=|2A369|+2|=|2A372|+9|=|2A382",
   "2A383 RA OR RI|2A383A|2A384|+2|=|2A387|+5|2A393 ao|2A394|+15|2A410 zq yl z|2A410A qr yl z",
   "2A411|+39|=|2A451|+6|=|2A458|+39|2A501|+29|@16800 0BAMUM a PHASE-A NGKUE MFON|3GBIEE FON",
   "3PON MFON PIPAEMGBIEE|5PIPAEMBA|3NAA MFON|3SHUENSHUET|3TITA MFON|3NZA MFON|3SHINDA PA NJI",
   "3PON PA NJI PIPAEMGBIEE|6PIPAEMBA|3MAEMBGBIEE|3TU MAEMBA|3NGANGU|3MAEMVEUX|3MANSUAE",
   "3MVEUAENGAM|3SEUNYAM|3NTOQPEN|3KEUKEUTNDA|3NKINDI|3SUU|3NGKUENZEUM|3LAPAQ|3LET KUT|3NTAP MFAA",
   "3MAEKEUP|3PASHAE|3GHEUAERAE|3PAMSHAE|3MON NGGEUAET|3NZUN MEUT|3U YUQ NAE|3GHEUAEGHEUAE",
   "3NTAP NTAA|3SISA|3MGBASA|3MEUNJOMNDEUQ|3MOOMPUQ|3KAFA|3PA LEERAEWA|3NDA LEERAEWA|3PET",
   "3MAEMKPEN|3NIKA|3PUP|3TUAEP|3LUAEP|3SONJAM|3TEUTEUWEN|3MAENYI|3KET|3NDAANGGEUAET|3KUOQ",
   "3MOOMEUT|3SHUM|3LOMMAE|3FIRI|3ROM|3KPOQ|3SOQ|3MAP PIEET|3SHIRAE|3NTAP|3SHOQ NSHUT YUM",
   "3NYIT MONGKEUAEQ|3PAARAE|3NKAARAE|3UNKNOWN|3NGGEN|3MAESI|3NJAM|3MBANYI|3NYET|3TEUAEN|3SOT",
   "3PAAM|3NSHIEE|3MAEM|3NYI|3KAQ|3NSHA|3VEE|3LU|3NEN|3NAQ|3MBAQ|2PHASE-B NSHUET|3TU MAEMGBIEE",
   "3SIEE|3SET TU|3LOM NTEUM|3MBA MAELEE|3KIEEM|3YEURAE|3MBAARAE|3KAM|3PEESHI|3YAFU LEERAEWA",
   "3qv NSHUT NYAM|3NTIEE SHEUOQ|3NDU NJAA|3GHEUGHEUAEM|3PIT|3TU NSIEE|3SHET NJAQ|3SHEUAEQTU",
   "3MFON TEUAEQ|3MBIT MBAAKET|3NYI NTEUM|3KEUPUQ|3GHEUGHEN|3KEUYEUX|3LAANAE|3PARUM|3VEUM",
   "3NGKINDI MVOP|3NGGEU MBU|3WUAET|3SAKEUAE|3TAAM|3MEUQ|3NGGUOQ|4cz|3MFIYAQ|3SUE|3MBEURI",
   "3MONTIEEN|3NYAEMAE|3PUNGAAM|3MEUT NGGEET|3FEUX|3MBUOQ|3FEE|3KEUAEM|3MA NJEUAENA|4NJUQA|3LET",
   "3NGGAAM|3NSEN|3MA|3KIQ|3NGOM|2PHASE-C NGKUE MAEMBA|3NZA|3YUM|3WANGKUOQ|3NGGEN|3NDEUAEREE",
   "3NGKAQ|3GHARAE|3MBEEKEET|3GBAYI|3NYIR MKPARAQ MEUN|3NTU MBIT|3MBEUM|3PIRIEEN|3NDOMBU",
   "3MBAA CABBAGE-TREE|3KEUSHEUAEP|3GHAP|3KEUKAQ|3YU MUOMAE|3NZEUM|3MBUE|3NSEUAEN|3MBIT|3YEUQ",
   "3KPARAQ|3KAA|3SEUX|3NDIDA|3TAASHAE|3NJUEQ|3TITA YUE|3SUAET|3NGGUAEN NYAM|3VEUX|3NANSANAQ",
   "3MA KEUAERI|3NTAA|3NGGUON|3LAP|3MBIRIEEN|3MGBASAQ|3NTEUNGBA|3TEUTEUX|3NGGUM|3FUE|3NDEUT|3NSA",
   "3NSHAQ|3BUNG|3VEUAEPEN|3MBERAE|3RU|3NJAEM|3qv|3TITUAEP|3NSUOT NGOM|3NJEEEE|3KET|3NGGU|3MAESI",
   "3MBUAEM|3LU|3KUT|3NJAM|3NGOM|3WUP|3NGGUEET|3NSOM|3NTEN|3KUOP NKAARAE|3NSUN|3NDAM|3MA NSIEE",
   "3YAA|3NDAP|3SHUEQ|3SETFON|3MBI|3MAEMBA|3MBANYI|3KEUSEUX|3MBEUX|3KEUM|3MBAA PICKET|3YUWOQ",
   "3NJEUX|3MIEE|3MUAE|3SHIQ|3KEN LAW|4FATIGUE|3NGAQ|3NAQ|3LIQ|3PIN|3PEN|3TET|2PHASE-D MBUO|3WAP",
   "3NJI|3MFON|3NJIEE|3LIEE|3NJEUT|3NSHEE|3NGGAAMAE|3NYAM|3WUAEN|3NGKUN|3SHEE|3NGKAP|3KEUAETMEUN",
   "3TEUT|3SHEUAE|3NJAP|3SUE|3KET|3YAEMMAE|3KUOM|3SAP|3MFEUT|3NDEUX|3MALEERI|3MEUT|3SEUAEQ|3YEN",
   "3NJEUAEM|3KEUOT MBUAE|3NGKEURI|3TU|3GHAA|3NGKYEE|3FEUFEUAET|3NDEE|3MGBOFUM|3LEUAEP|3NDON|3MONI",
   "3MGBEUN|3PUUT|3MGBIEE|3MFO|3LUM|3NSIEEP|3MBAA|3KWAET|3NYET|3TEUAEN|3SOT|3YUWOQ|3KEUM|3RAEM",
   "3TEEEE|3NGKEUAEQ|3MFEUAE|3NSIEET|3KEUP|3PIP|3PEUTAE|3NYUE|3LET|3NGGAAM|3MFIEE|3NGGWAEN|3YUOM",
   "3PAP|3YUOP|3NDAM|3NTEUM|3SUAE|3KUN|3NGGEUX|3NGKIEE|3TUOT|3MEUN|3KUQ|3NSUM|3TEUN|3MAENJET",
   "3NGGAP|3LEUM|3NGGUOM|3NSHUT|3NJUEQ|3GHEUAE|3KU|3REN qo|3TAE|3TOQ|3NYI|3RII|3LEEEE|3MEEEE|3M",
   "3SUU|3MU|3SHII|3SHEUX|3KYEE|3NU|3SHU|3NTEE|3PEE|3NI|3SHOQ|3PUQ|3MVOP|3LOQ|3REN MUCH|3TI|3NTUU",
   "3MBAA ar|3SAQ|3FAA|2PHASE-E NDAP|3TOON|3MBEUM|3LAP|3VOM|3LOON|3PAA|3SOM|3RAQ|3NSHUOP|3NDUN",
   "3PUAE|3TAM|3NGKA|3KPEUX|3WUO|3SEE|3NGGEUAET|3PAAM|3TOO|3KUOP|3LOM|3NSHIEE|3NGOP|3MAEM|3NGKEUX",
   "3NGOQ|3NSHUE|3RIMGBA|3NJEUX|3PEEM|3SAA|3NGGURAE|3MGBA|3GHEUX|3NGKEUAEM|3NJAEMLI|3MAP|3LOOT",
   "3NGGEEEE|3NDIQ|3TAEN NTEUM|3SET|3PUM|3NDAA SOFTNESS|3NGGUAESHAE NYAM|3YIEE|3GHEUN|3TUAE|3YEUAE",
   "3PO|3TUMAE|3KEUAE|3SUAEN|3TEUAEQ|3VEUAE|3WEUX|3LAAM|3PU|3TAAQ|3GHAAMAE|3NGEUREUT|3SHEUAEQ",
   "3MGBEN|3MBEE|3NZAQ|3NKOM|3GBET|3TUM|3KUET|3YAP|3NYI CLEAVER|3YIT|3MFEUQ|3NDIAQ|3PIEEQ|3YUEQ",
   "3LEUAEM|3FUE|3GBEUX|3NGKUP|3KET|3MAE|3NGKAAMI|3GHET|3FA|3NTUM|3PEUT|3YEUM|3NGGEUAE|3NYI in",
   "3NZUQ|3POON|3MIEE|3FUET|3NAE|3MUAE|3GHEUAE|3FU I|3MVI|3PUAQ|3NGKUM|3KUT|3PIET|3NTAP|3YEUAET",
   "3NGGUP|3PA PEOPLE|3FU CALL|3FOM|3NJEE|3A|3TOQ|3O|3I|3LAQ|3PA PLURAL|3TAA|3TAQ|3NDAA MY HOUSE",
   "3SHIQ|3YEUX|3NGUAE|3YUAEN|3YOQ SWIMMING|4COVER|3YUQ|3YUN|3KEUX|3PEUX|3NJEE EPOCH|3PUE|3WUE",
   "3FEE|3VEE|3LU|3MI|3REUX|3RAE|3NGUAET|3ja|3SHO|3SHOQ|3FU REMEDY|3NA|3PI|3LOQ|3KO|3MEN|3MA|3MAQ",
   "3TEU|3KI|3MON|3ii|3FAQ|3GHOM|2PHASE-F KA|3U|3KU|3EE|3REE|3TAE|3NYI|3LA|3RII|3RIEE|3MEEEE|3TAA",
   "3NDAA|3NJAEM|3M|3SUU|3SHII|3SI|3SEUX|3KYEE|3KET|3NUAE|3NU|3NJUAE|3YOQ|3SHU|3YA|3NSHA|3PEUX",
   "3NTEE|3WUE|3PEE|3RU|3NI|3REUX|3KEN|3NGKWAEN|3NGGA|3SHO|3PUAE|3FOM|3WA|3LI|3LOQ|3KO|3MBEN|3REN",
   "3MA|3MO|3MBAA|3TET|3KPA|3SAMBA|3VUEQ|@16A40 0MRO a TA|2NGI|2YO|2MIM|2BA|2DA|2A|2wu|2KHAI|2HAO",
   "2DAI|2CHU|2KEAAE|2OL|2MAEM|2NIN|2PA|2OO|2O|2RO|2SHI|2THEA|2EA|2WA|2E|2KO|2LAN|2LA|2HAI|2RI",
   "2TEK|@16A60 1br do|2bq|2bk|2r|2aq|2aw|2eq|2ar|2ao|2cf|@16A6E 1hw|1l hw|0TANGSA a OZ|2OC|2OQ",
   "2OX|2AZ|2AC|2AQ|2AX|2VZ|2VC|2VQ|2VX|2EZ|2EC|2EQ|2EX|2IZ|2IC|2IQ|2IX|2UZ|2UC|2UQ|2UX|2AWZ|2AWC",
   "2AWQ|2AWX|2UIZ|2UIC|2UIQ|2UIX|2m NG|2eg UEX|2ey UEZ|3AWX|2UEC|2UEZ|2UEQ|2UEX|2UIUZ|2UIUC|2UIUQ",
   "2UIUX|2MZ|2MC|2MQ|2MX|2KA|2jx|2GA|2ja|2SA|2YA|2WA|2PA|2jv|2lp|2BA|2MA|2NA|2HA|2LA|2HTA|2TA|2DA",
   "2RA|2NHA|2jb|2CA|2uj|2nn|2HTTA|2kk|2XA|2FA|2no|2js|2ZA|@16AC0 1br do|2bq|2bk|2r|2aq|2aw|2eq",
   "2ar|2ao|2cf|@16AD0 0BASSA VAH a ENNI|3KA|3SE|3FA|3MBE|3YIE|3GAH|3DHII|3KPAH|3JO|3HWAH|3WA|3ZO",
   "3GBU|3DO|3CE|3UWU|3TO|3BA|3VU|3YEIN|3PA|3WADDA|3A|3O|3OO|3U|3EE|3E|3I|@16AF0 2cg es em|3hj em",
   "3MID em|3LOW-MID em|3HIGH-LOW em|2gy ex|@16B00 0PAHAWH HMONG bm KEEB|3KEEV|3KIB|3KIV|3KAUB",
   "3KAUV|3KUB|3KUV|3KEB|3KEV|3KAIB|3KAIV|3KOOB|3KOOV|3KAWB|3KAWV|3KUAB|3KUAV|3KOB|3KOV|3KIAB",
   "3KIAV|3KAB|3KAV|3KWB|3KWV|3KAAB|3KAAV|2en VAU|3NTSAU|3LAU|3HAU|3NLAU|3RAU|3NKAU|3QHAU|3YAU",
   "3HLAU|3MAU|3CHAU|3NCHAU|3HNAU|3PLHAU|3NTHAU|3NAU|3AU|3XAU|3CAU|2z CIM TUB|4SO|4KES|4KHAV|4SUAM",
   "4HOM|4TAUM|2f VOS THOM|4TSHAB CEEB|3CIM CHEEM|3VOS THIAB|4FEEM|3XYEEM NTXIV|4wc|4TOV|4FAIB",
   "3VOS SEEV|3MEEJ SUAB|3VOS NRUA|3IB YAM|3XAUS|3CIM TSOV ROG|@16B50 2br do|3bq|3bk|3r|3aq|3aw",
   "3eq|3ar|3ao|3cf|@16B5B 2ck TENS|3HUNDREDS|3ii mp|3qt|3ab qt|3ii BILLIONS|3TRILLIONS",
   "@16B63 2f VOS LUB|3XYOO|3HLI|3THIRD-STAGE HLI|3ZWJ THAJ|3HNUB|3NQIG|3XIAB|3NTUJ|3AV",
   "3TXHEEJ CEEV|3MEEJ TSEEB|3TAU|3LOS|3MUS|3CIM HAIS LUS NTOG NTOG|4CUAM TSHOOJ|4TXWV|5CHWV",
   "4PUB DAWB|4NRES TOS|@16B7D 2CLAN f TSHEEJ|4YEEG|4LIS|4LAUJ|4XYOOJ|4KOO|4HAWJ|4MUAS|4THOJ|4TSAB",
   "4PHAB|4KHAB|4HAM|4VAJ|4FAJ|4YAJ|4TSWB|4KWM|4VWJ|@16E40 0MEDEFAIDRIN c a M|3S|3V|=|3ATIU|3Z|3KP",
   "3P|3T|3G|3F|3I|3K|3A|3J|3E|3B|=|3U|3YU|3L|3Q|3HP|3NY|3X|3D|3OE|3N|3R|3O|3AI|3Y|1k a M|3S|3V|=",
   "3ATIU|3Z|3KP|3P|3T|3G|3F|3I|3K|3A|3J|3E|3B|=|3U|3YU|3L|3Q|3HP|3NY|3X|3D|3OE|3N|3R|3O|3AI|3Y",
   "1br do|2bq|2bk|2r|2aq|2aw|2eq|2ar|2ao|2cf|1ck ii|2on|2lw|2pj|2pk|2mg|2nu|2mu|2ng|2pl",
   "1br bq eo d|2bk eo d|2r eo d|1du|1gy ex|1u AIVA|1cv OH|@16F00 0MIAO a PA|2BA|2YI PA|2PLA|2MA",
   "2MHA|2hx MA|2FA|2VA|2VFA|2TA|2DA|2YI mq|3TA|2mq|2nb|2NA|2NHA|2YI oi|2hx NA|2oi|2NNHA|2LA|2LYA",
   "2LHA|2LHYA|2TLHA|2DLHA|2TLHYA|2DLHYA|2KA|2GA|2YI KA|2QA|2QGA|2ja|2NGHA|2hx ja|2HA|2XA|2nn",
   "2GHHA|2TSSA|2DZZA|2jv|2NYHA|2us|2DZHA|2YI us|3DZHA|2REFORMED us|2jb|2pv|2zv|2ZSHA|2uj|2DZA",
   "2YI uj|2SA|2ZA|2ZSA|2ZZA|2ZZSA|2hx ZZA|2ZZYA|2ZZSYA|2WA|2AH|2HHA|2BRI|2SYI|2DZYI|2TE|2TSE|2RTE",
   "@16F4F 1f en dt fb|1a NASALIZATION|1f ASPIRATION|2REFORMED VOICING|3ASPIRATION|1bm f A|3AA",
   "3AHH|3AN|3ANG|3O|3OO|3WO|3W|3E|3EN|3ENG|3OEY|3I|3IA|3IAN|3IANG|3IO|3IE|3II|3IU|3ING|3U|3UA",
   "3UAN|3UANG|3UU|3UEI|3UNG|3Y|3YI|3AE|3AEE|3ERR|3ns ERR|3ER|3ns ER|3AI|3EI|3AU|3OU|3N|3NG|3UOG",
   "3YUI|3OG|3OER|3VW|3IG|3EA|3IONG|3UI|@16F8F 1em g|2pu g|2j|2v|1a TONE-2|+6|2REFORMED TONE-1|+",
   "3TONE-4|+2|3TONE-8|@16FE0 0TANGUT ke z|0NUSHU ke z|0qo CHINESE be z|2ke z|0KHITAN k hn ss",
   "@16FF0 0VIETNAMESE eo READING z CA|4NHAY|@18800 0TANGUT COMPONENT-001|+767",
   "@1AFF0 0kw a MINNAN TONE-2|+3|@1AFF5 3TONE-7|+|3NASALIZED TONE-1|+4|@1AFFD 4TONE-7|+",
   "@1B000 2hx E|0tx a hx YE|0HENTAIGANA a A-1|+2|2A-WO|2I-1|+3|2U-1|+4|2E-2|+4|2O-1|+2|2KA-1|+10",
   "2KA-KE|2KI-1|+7|2KU-1|+6|2KE-1|+5|2KO-1|+2|2KO-KI|2SA-1|+7|2SI-1|+5|2SU-1|+7|2SE-1|+4|2SO-1|+6",
   "2TA-1|+3|2TI-1|+6|2TU-1|+3|2TU-TO|2TE-1|+8|2TO-1|+5|2TO-RA|2NA-1|+8|2NI-1|+6|2NI-TE|2NU-1|+2",
   "2NE-1|+5|2NE-KO|2NO-1|+4|2HA-1|+10|2HI-1|+6|2HU-1|+2|2HE-1|+6|2HO-1|+7|2MA-1|+6|2MI-1|+6|2MU-1",
   "+3|2ME-1|+|2ME-MA|2MO-1|+5|2YA-1|+4|2YA-YO|2YU-1|+3|2YO-1|+5|2RA-1|+3|2RI-1|+6|2RU-1|+5|2RE-1",
   "+3|2RO-1|+5|2WA-1|+4|2WI-1|+4|2WE-1|+3|2WO-1|+6|2N-MU-MO-1|+|0tx a hx WU|0kw a hx YI|3YE|3WU",
   "@1B150 0tx a k WI|3WE|3WO|@1B164 0kw a k WI|3WE|3WO|3N|@1BC00 0DUPLOYAN a H|2X|2P|2T|2F|2K|=",
   "2B|2D|2V|2G|2R|2P N|2D S|2F N|2K M|2R S|2TH|2SLOAN DH|2DH|2KK|2SLOAN J|2HL|2LH|2RH|2M|=|2J|2S",
   "2M N|2N M|2J M|2S J|2M b cq|2N b cq|2J b cq|4cr jf s j|2S b cq|5v|2M S|2N S|2J S|2S S|2M N S",
   "2N M S|2J M S|2S J S|2J S b cq|3N|4S|2S T|4R|3P|4R|2T S|3R S|2W|2WH|2W R|2S N|3M|2K R S|2G R S",
   "2S K|4R|2A|2SLOAN OW|2OA|2O|2AOU|2I|2E|2IE|2ey I|2UI|2EE|2SLOAN EH|2ROMANIAN I|2SLOAN EE|2eg I",
   "2YE|2U|2EU|2XW|2U N|2eg U|2ROMANIAN U|2UH|2SLOAN U|2OOH|2OW|2OU|2WA|2WO|2WI|2WEI|2WOW|2NASAL U",
   "3O|3I|3A|2PERNIN AN|3AM|2SLOAN EN|3AN|3ON|2bx M|@1BC70 1AFFIX n x vb|2MID x vb|2g x vb",
   "2hj p vb|2MID p vb|2es p vb|2th vb|3om vb|3TANGENT|3he|3E be|3I be|3TANGENT be|@1BC80 2es dk",
   "3TIGHT dk|3er|3eg er|3cq|3am|3fn|3pd|3p|@1BC90 2hj dk|3TIGHT dk|3er|3eg er|3cq|3am|3fn|3pd|3p",
   "3e|@1BC9C 1f O b fk|1THICK a SELECTOR|1l z|1az CHINOOK gy ex|0SHORTHAND FORMAT a OVERLAP",
   "2CONTINUING OVERLAP|2bz STEP|2UP STEP|@1CF00 0ZNAMENNY cg z GORAZDO NIZKO S lk ON n",
   "3NIZKO S lk ON n|3TSATA ON n|3GORAZDO NIZKO ON n|3NIZKO ON n|3SREDNE ON n|3MALO ll ON n",
   "3ll ON n|3VYSOKO ON n|3MALO ll S ud ON n|3ll S ud ON n|3VYSOKO S ud ON n",
   "3GORAZDO NIZKO S lk ON g|3NIZKO S lk ON g|3TSATA ON g|3GORAZDO NIZKO ON g|3NIZKO ON g",
   "3SREDNE ON g|3MALO ll ON g|3ll ON g|3VYSOKO ON g|3MALO ll S ud ON g|3ll S ud ON g",
   "3VYSOKO S ud ON g|3TSATA S lk|3MALO ll S lk|3STRANNO MALO ll|3ll S lk|4STRANNO|3VYSOKO S lk",
   "3MALO ll STRANNO|3GORAZDO VYSOKO|3ZELO|3ON|3RAVNO|3TIKHAYA|3BORZAYA|3UDARKA|3PODVERTKA|3LOMKA",
   "3KUPNAYA|3KACHKA|3ZEVOK|3SKOBA|3RAZSEKA|3KRYZH ON n|@1CF30 2TONAL RANGE z MRACHNO|5SVETLO",
   "5TRESVETLO|2z ZADERZHKA|3DEMESTVENNY ZADERZHKA|3OTSECHKA|3PODCHASHIE|4b p ad|3CHASHKA|4POLNAYA",
   "3OBLACHKO|3SOROCHYA NOZHKA|3TOCHKA|3DVOETOCHIE|2ATTACHING p OMET|2z qa OMET|3KRYZH",
   "2bs TONAL RANGE mo|1PRIZNAK dt LEVEL-2|+|3DIRECTION FLIP|3KRYZH|3ROG|@1CF50 1NEUME KRYUK",
   "3TIKHY|2PARAKLIT|2DVA V CHELNU|2KLYUCH|2ZANOZHEK|2STOPITSA|3S OCHKOM|2PEREVODKA|3nl",
   "2STOPITSA b SOROCHYA NOZHKA|2CHELYUSTKA|2PALKA|2mw|2GOLUBCHIK BORZY|3TIKHY|3MRACHNY|3SVETLY",
   "3TRESVETLY|2VRAKHIYA PROSTAYA|3MRACHNAYA|3pq|3vz|3ls PROSTAYA|4MRACHNAYA|4pq|4vz|2l mw",
   "2as CHELYUSTKA|2DERBITSA|2KHAMILO|2CHASHKA|2PODCHASHIE|2SKAMEYTSA MRACHNAYA|3pq|3vz|3TIKHAYA",
   "2DEMESTVENNY KLYUCH|2SKAMEYTSA ls pq|3KLYUCHENEPOSTOYANNAYA|3ls TIKHAYA|3DVOECHELNAYA PROSTAYA",
   "4pq|4nl|4ls|2SLOZHITIE|3S ue|3ZAKRYTOE|3S lk|2KRYZH|2ROG|2FITA|2KOBYLA|2ZMEYTSA|2STATYA|3S ue",
   "4lk|4ue I lk|4lk I ue|3ZAKRYTAYA|4S ue|3S ROGOM|4DVUMYA ZAPYATYMI|4ue I PODCHASHIEM",
   "2POLKULIZMY|2STATYA nl|2STRELA PROSTAYA|3MRACHNOTIKHAYA|3KRYZHEVAYA|3POLUPOVODNAYA|3POVODNAYA",
   "3nl|3KLYUCHEPOVODNAYA|3KLYUCHENEPOSTOYANNAYA|3TIKHAYA PUTNAYA|3DVOECHELNAYA",
   "3DVOECHELNOKRYZHEVAYA|3DVOECHELNOPOVODNAYA|3DVOECHELNAYA ls|3DVOECHELNOPOVODNAYA ls",
   "3GROMNAYA b bv mw|3rl b bv mw|3GROMNAYA|3rl|4b l mw|3GROMOKRYZHEVAYA|4POVODNAYA|2MECHIK",
   "3POVODNY|3KLYUCHEVOY|3KLYUCHEPOVODNY|3KLYUCHENEPOSTOYANNY|2STRELA TRYASOGLASNAYA",
   "3TRYASOPOVODNAYA|3TRYASOSTRELNAYA|2OSOKA|3pq|3vz|3KRYUKOVAYA pq|3ls pq|4nl|2STRELA KRYUKOVAYA",
   "4POVODNAYA|4GROMNAYA b bv mw|4rl b bv mw|4GROMNAYA|4rl|5b l mw|4GROMOKRYZHEVAYA|5POVODNAYA",
   "4TRYASKA|2KUFISMA|2OBLAKO|2DUDA|2NEMKA|2PAUK|@1D000 0BYZANTINE kl u cu|3DASEIA|3ax|3OXEIA wa",
   "4DIPLI|3VAREIA wa|4DIPLI|3KATHISTI|3SYRMATIKI|3PARAKLITIKI|3YPOKRISIS|4DIPLI|3KREMASTI",
   "3APESO wa|3EXO wa|3TELEIA|3vc|3APOSTROFOS|4DIPLI|3SYNEVMA|3THITA|3OLIGON go|3GORGON go|3PSILON",
   "3CHAMILON|3VATHY|3ISON go|3KENTIMA go|3vc go|3SAXIMATA|3PARICHON|3STAVROS APODEXIA|3OXEIAI go",
   "3VAREIAI go|3APODERMA go|3APOTHEMA|3KLASMA|3REVMA|3PIASMA go|3TINAGMA|3ANATRICHISMA|3SEISMA",
   "3SYNAGMA go|4META STAVROU|3OYRANISMA go|3THEMA|3LEMOI|3DYO|3TRIA|3TESSERA|3KRATIMATA",
   "3APESO EXO wi|3FTHORA go|3IMIFTHORA|3TROMIKON go|3KATAVA TROMIKON|3PELASTON|3PSIFISTON",
   "3KONTEVMA|3CHOREVMA go|3RAPISMA|3PARAKALESMA go|3PARAKLITIKI go|3ICHADIN|3NANA|3PETASMA",
   "3KONTEVMA ALLO|3TROMIKON ALLO|3STRAGGISMATA|3GRONTHISMATA|3ISON wi|3OLIGON wi|3OXEIA wi",
   "3PETASTI|3KOUFISMA|3PETASTOKOUFISMA|3KRATIMOKOUFISMA|3PELASTON wi|3vc wi ANO|3KENTIMA wi ANO",
   "3YPSILI|3APOSTROFOS wi|3APOSTROFOI SYNDESMOS wi|3YPORROI|3KRATIMOYPORROON|3ELAFRON|3CHAMILI",
   "3MIKRON ISON|3VAREIA wi|3PIASMA wi|3PSIFISTON wi|3OMALON|3ANTIKENOMA|3LYGISMA|3PARAKLITIKI wi",
   "3PARAKALESMA wi|3ETERON PARAKALESMA|3KYLISMA|3ANTIKENOKYLISMA|3TROMIKON wi|3EKSTREPTON",
   "3SYNAGMA wi|3SYRMA|3CHOREVMA wi|3EPEGERMA|3SEISMA wi|3XIRON KLASMA|3TROMIKOPSIFISTON",
   "3PSIFISTOLYGISMA|3TROMIKOLYGISMA|3TROMIKOPARAKALESMA|3PSIFISTOPARAKALESMA|3TROMIKOSYNAGMA",
   "3PSIFISTOSYNAGMA|3GORGOSYNTHETON|3ARGOSYNTHETON|3ETERON ARGOSYNTHETON|3OYRANISMA wi",
   "3THEMATISMOS ESO|4EXO|3THEMA APLOUN|3THES KAI APOTHES|3KATAVASMA|3ENDOFONON|3YFEN KATO|4ANO",
   "3STAVROS|3KLASMA ANO|3DIPLI go|3KRATIMA go|4ALLO|4wi|3APODERMA wi|3APLI|3DIPLI|3TRIPLI",
   "3TETRAPLI|3KORONIS|3LEIMMA ENOS CHRONOU|4DYO CHRONON|4TRION CHRONON|4TESSARON CHRONON",
   "4IMISEOS CHRONOU|3GORGON wi ANO|4PARESTIGMENON ARISTERA|5DEXIA|3DIGORGON",
   "4PARESTIGMENON ARISTERA KATO|6ANO|5DEXIA|3TRIGORGON|3ARGON|3IMIDIARGON|3DIARGON",
   "3AGOGI POLI ARGI|4ARGOTERI|4ARGI|4METRIA|4MESI|4GORGI|4GORGOTERI|4POLI GORGI",
   "3MARTYRIA PROTOS rm|4ALLI PROTOS rm|4DEYTEROS rm|4ALLI DEYTEROS rm|4TRITOS rm|4TRIFONIAS",
   "4TETARTOS rm|5LEGETOS rm|4LEGETOS rm|4PLAGIOS rm|3ISAKIA TELOUS ICHIMATOS",
   "3APOSTROFOI TELOUS ICHIMATOS|3FANEROSIS TETRAFONIAS|4MONOFONIAS|4DIFONIAS|3MARTYRIA VARYS rm",
   "4PROTOVARYS rm|4PLAGIOS TETARTOS rm|3GORTHMIKON N APLOUN|5DIPLOUN|3ENARXIS KAI FTHORA VOU",
   "3IMIFONON|3IMIFTHORON|3FTHORA go DEYTEROU ICHOU|4DIATONIKI PA|5NANA|4NAOS rm|4DIATONIKI DI",
   "4SKLIRON DIATONON DI|4DIATONIKI KE|5ZO|5NI KATO|6ANO|4MALAKON CHROMA DIFONIAS|6MONOFONIAS",
   "3FHTORA SKLIRON CHROMA VASIS|3FTHORA SKLIRON CHROMA SYNAFI|4NENANO|3CHROA ZYGOS|4KLITON",
   "4SPATHI|3FTHORA I YFESIS TETARTIMORION|4ENARMONIOS ANTIFONIA|3YFESIS TRITIMORION",
   "3DIESIS TRITIMORION|4TETARTIMORION|4APLI DYO pr|4MONOGRAMMOS TESSERA pr|4DIGRAMMOS EX pr",
   "4TRIGRAMMOS OKTO pr|3YFESIS APLI DYO pr|4MONOGRAMMOS TESSERA pr|4DIGRAMMOS EX pr",
   "4TRIGRAMMOS OKTO pr|3GENIKI DIESIS|4YFESIS|3DIASTOLI APLI MIKRI|5MEGALI|4DIPLI|4THESEOS",
   "3SIMANSIS THESEOS|5DISIMOU|5TRISIMOU|5TETRASIMOU|4ARSEOS|5DISIMOU|5TRISIMOU|5TETRASIMOU",
   "3DIGRAMMA GG|3DIFTOGGOS OU|3STIGMA|3ARKTIKO PA|4VOU|4GA|4DI|4KE|4ZO|4NI|3vc wi MESO",
   "3KENTIMA wi MESO|3vc wi KATO|3KENTIMA wi KATO|3KLASMA KATO|3GORGON wi KATO|@1D100 0kl u bv wq",
   "2l wq|2m wq|2gr m wq|2ne wq|2ey wq|2n REPEAT f|2g REPEAT f|2REPEAT cr|2DAL SEGNO|2DA CAPO",
   "2SEGNO|2CODA|2REPEATED FIGURE-1|+2|2FERMATA|3v|2BREATH z|2CAESURA|2BRACE|2ae|2ONE-LINE STAFF",
   "2TWO-LINE STAFF|2THREE-LINE STAFF|2FOUR-LINE STAFF|2FIVE-LINE STAFF|2SIX-LINE STAFF",
   "2SIX-STRING FRETBOARD|2FOUR-STRING FRETBOARD|2G CLEF|4OTTAVA ALTA|5BASSA|2C CLEF|2F CLEF",
   "4OTTAVA ALTA|5BASSA|2DRUM CLEF-1|+|@1D129 2ji wo sd|2l SHARP|3FLAT|2FLAT UP|3bz|2NATURAL UP",
   "3bz|2SHARP UP|3bz|2ef em SHARP|4FLAT|2COMMON TIME|2CUT TIME|2OTTAVA ALTA|3BASSA",
   "2QUINDICESIMA ALTA|3BASSA|2MULTI sd|2WHOLE sd|2cc sd|2ef sd|2gw sd|2rq sd|2zm sd",
   "2SIXTY-FOURTH sd|2bq ab TWENTY-EIGHTH sd|2X jt|2bw jt|2am X jt|2al jt y|4w|2ah jt UP y|5w|4n y",
   "5w|4g y|5w|4bz y|5w|4UP g y|6w|2mi jt y|4w|2TRIANGLE-ROUND jt bz y|5w|2bb jt|2VOID jt|2jt w",
   "2NULL jt|2CLUSTER jt y|4w|2hd|2WHOLE ql|2cc ql|2ef ql|2gw ql|2rq ql|2zm ql|2SIXTY-FOURTH ql",
   "2bq ab TWENTY-EIGHTH ql|2cg STEM|3SPRECHGESANG STEM|3TREMOLO-1|+2|2FINGERED TREMOLO-1|+2",
   "2cg AUGMENTATION cq|3FLAG-1|+4|2zq BEAM|2qr BEAM|2zq TIE|2qr TIE|2zq SLUR|2qr SLUR|2zq PHRASE",
   "2qr PHRASE|2cg eu|3STACCATO|3TENUTO|3STACCATISSIMO|3MARCATO|3MARCATO-STACCATO|3ACCENT-STACCATO",
   "3LOURE|2ARPEGGIATO UP|3bz|2cg DOIT|3RIP|3FLIP|3SMEAR|3BEND|3l yj|3dm yj|2RINFORZANDO|2SUBITO",
   "2Z|2PIANO|2MEZZO|2FORTE|2CRESCENDO|2DECRESCENDO|2GRACE ql nz|4NO nz|2TR|2TURN|2bf TURN",
   "2TURN nz|3UP|2bo STROKE-1|+10|2HAUPTSTIMME|2NEBENSTIMME|2qr OF STIMME|2DEGREE nz|2cg bz BOW",
   "3UP BOW|3HARMONIC|3SNAP PIZZICATO|2PEDAL z|3UP z|2cc PEDAL z|2GLISSANDO UP|3bz|2b FINGERNAILS",
   "2DAMP|3ALL|2MAXIMA|2LONGA|2BREVIS|2SEMIBREVIS y|3w|2MINIMA|3w|2SEMIMINIMA y|3w|2FUSA y|3w",
   "2LONGA PERFECTA sd|3IMPERFECTA sd|2BREVIS sd|2SEMIBREVIS sd|2MINIMA sd|2SEMIMINIMA sd",
   "2TEMPUS PERFECTUM CUM PROLATIONE PERFECTA|6IMPERFECTA|6PERFECTA DIMINUTION-1",
   "3IMPERFECTUM CUM PROLATIONE PERFECTA|6IMPERFECTA|7DIMINUTION-1|+2|2CROIX|2GREGORIAN C CLEF",
   "3F CLEF|2al B|2VIRGA|2PODATUS|2CLIVIS|2SCANDICUS|2CLIMACUS|2TORCULUS|2PORRECTUS|3FLEXUS",
   "2SCANDICUS FLEXUS|2TORCULUS RESUPINUS|2PES SUBPUNCTIS|2KIEVAN C CLEF|3qr OF PIECE|3m ql",
   "3RECITATIVE z|3WHOLE ql|3cc ql|3ef ql STEM bz|6UP|3gw ql STEM bz|6UP|3FLAT f|2SORI|2KORON",
   "@1D200 0jc VOCAL ph SYMBOL-1|+23|3SYMBOL-50|+4|1INSTRUMENTAL ph SYMBOL-1|+|3SYMBOL-4|+",
   "3SYMBOL-7|+|3SYMBOL-11|+3|3SYMBOL-17|+2|3SYMBOL-23|+4|3SYMBOL-29|+|3SYMBOL-32|3SYMBOL-36|+4",
   "3SYMBOL-42|+|3SYMBOL-45|3SYMBOL-47|+7|0cg jc kl TRISEME|3TETRASEME|3PENTASEME|0jc kl LEIMMA",
   "@1D2E0 0MAYAN nq do|2bq|2bk|2r|2aq|2aw|2eq|2ar|2ao|2cf|2ii|2on|2lw|2pj|2pk|2mg|2nu|2mu|2ng|2pl",
   "@1D300 0ts qk qi|0DIGRAM qk HEAVENLY qi|2HUMAN qi|2EARTHLY HEAVEN|3HUMAN|2qi|0TETRAGRAM qk cw",
   "2gy am|2MIRED|2BARRIER|2KEEPING k|2CONTRARIETY|2ASCENT|2OPPOSITION|2BRANCHING OUT",
   "2DEFECTIVENESS OR DISTORTION|2DIVERGENCE|2YOUTHFULNESS|2INCREASE|2PENETRATION|2REACH|2wr",
   "2wn BACK|2WAITING|2FOLLOWING|2ADVANCE|2RELEASE|2RESISTANCE|2EASE|2JOY|2CONTENTION|2ENDEAVOUR",
   "2DUTIES|2CHANGE|2DECISIVENESS|2lh RESOLUTION|2PACKING|2LEGION|2CLOSENESS|2KINSHIP|2GATHERING",
   "2STRENGTH|2PURITY|2FULLNESS|2RESIDENCE|2LAW OR MODEL|2RESPONSE|2GOING TO MEET|2ENCOUNTERS",
   "2STOVE|2GREATNESS|2ENLARGEMENT|2PATTERN|2RITUAL|2FLIGHT|2VASTNESS OR WASTING|2CONSTANCY|2wo",
   "2ETERNITY|2UNITY|2DIMINISHMENT|2fs ku|2GUARDEDNESS|2GATHERING IN|2MASSING|2ACCUMULATION",
   "2EMBELLISHMENT|2DOUBT|2WATCH|2SINKING|2INNER|2DEPARTURE|2DARKENING|2DIMMING|2EXHAUSTION",
   "2SEVERANCE|2STOPPAGE|2HARDNESS|2COMPLETION|2CLOSURE|2FAILURE|2AGGRAVATION|2COMPLIANCE",
   "2ON qn VERGE|2DIFFICULTIES|2LABOURING|2FOSTERING|@1D360 0COUNTING ROD UNIT br bq|4bk|4r|4aq",
   "4aw|4eq|4ar|4ao|4cf|2TENS br bq|4bk|4r|4aq|4aw|4eq|4ar|4ao|4cf|0fq TALLY z bq|3bk|3r|3aq|3aw",
   "0TALLY z bq|2aw|@1D400 0me lh c A|=25|2k A|=25|1px c A|=25|2k A|=6|@1D456 3I|=17|1lh px c A",
   "=25|3k A|=25|1hn c A|@1D49E 3C|=|@1D4A2 3G|@1D4A5 3J|=|@1D4A9 3N|=3|@1D4AE 3S|=7|2k A|=3",
   "@1D4BB 3F|@1D4BD 3H|=6|@1D4C5 3P|=10|1lh hn c A|=25|3k A|=25|1FRAKTUR c A|=|@1D507 3D|=3",
   "@1D50D 3J|=7|@1D516 3S|=6|@1D51E 2k A|=25|1gj c A|=|@1D53B 3D|=3|@1D540 3I|=4|@1D546 3O",
   "@1D54A 3S|=6|@1D552 2k A|=25|1lh FRAKTUR c A|=25|3k A|=25|1dq c A|=25|2k A|=25|2lh c A|=25",
   "3k A|=25|2px c A|=25|3k A|=25|2lh px c A|=25|4k A|=25|1MONOSPACE c A|=25|2k A|=25|1px k ju I|=",
   "@1D6A8 1lh c hf|3sb|3kh|3ld|3fr|3wx|3ETA|3jd|3la|3lz|3qg|3MU|3NU|3XI|3hy|3PI|3wc|3jd u|3iz",
   "3TAU|3fi|3wu|3yu|3PSI|3hg|2NABLA|2k hf|3sb|3kh|3ld|3fr|3wx|3ETA|3jd|3la|3lz|3qg|3MU|3NU|3XI",
   "3hy|3PI|3wc|3m iz|3iz|3TAU|3fi|3wu|3yu|3PSI|3hg|2rw mf|2fr u|2jd u|2lz u|2wu u|2wc u|2PI u",
   "1px c hf|3sb|3kh|3ld|3fr|3wx|3ETA|3jd|3la|3lz|3qg|3MU|3NU|3XI|3hy|3PI|3wc|3jd u|3iz|3TAU|3fi",
   "3wu|3yu|3PSI|3hg|2NABLA|2k hf|3sb|3kh|3ld|3fr|3wx|3ETA|3jd|3la|3lz|3qg|3MU|3NU|3XI|3hy|3PI|3wc",
   "3m iz|3iz|3TAU|3fi|3wu|3yu|3PSI|3hg|2rw mf|2fr u|2jd u|2lz u|2wu u|2wc u|2PI u|1lh px c hf|4sb",
   "4kh|4ld|4fr|4wx|4ETA|4jd|4la|4lz|4qg|4MU|4NU|4XI|4hy|4PI|4wc|4jd u|4iz|4TAU|4fi|4wu|4yu|4PSI",
   "4hg|3NABLA|3k hf|4sb|4kh|4ld|4fr|4wx|4ETA|4jd|4la|4lz|4qg|4MU|4NU|4XI|4hy|4PI|4wc|4m iz|4iz",
   "4TAU|4fi|4wu|4yu|4PSI|4hg|3rw mf|3fr u|3jd u|3lz u|3wu u|3wc u|3PI u|1dq lh c hf|4sb|4kh|4ld",
   "4fr|4wx|4ETA|4jd|4la|4lz|4qg|4MU|4NU|4XI|4hy|4PI|4wc|4jd u|4iz|4TAU|4fi|4wu|4yu|4PSI|4hg",
   "3NABLA|3k hf|4sb|4kh|4ld|4fr|4wx|4ETA|4jd|4la|4lz|4qg|4MU|4NU|4XI|4hy|4PI|4wc|4m iz|4iz|4TAU",
   "4fi|4wu|4yu|4PSI|4hg|3rw mf|3fr u|3jd u|3lz u|3wu u|3wc u|3PI u|3px c hf|5sb|5kh|5ld|5fr|5wx",
   "5ETA|5jd|5la|5lz|5qg|5MU|5NU|5XI|5hy|5PI|5wc|5jd u|5iz|5TAU|5fi|5wu|5yu|5PSI|5hg|4NABLA|4k hf",
   "5sb|5kh|5ld|5fr|5wx|5ETA|5jd|5la|5lz|5qg|5MU|5NU|5XI|5hy|5PI|5wc|5m iz|5iz|5TAU|5fi|5wu|5yu",
   "5PSI|5hg|4rw mf|4fr u|4jd u|4lz u|4wu u|4wc u|4PI u|1lh c DIGAMMA|-|@1D7CE 2br do|3bq|3bk|3r",
   "3aq|3aw|3eq|3ar|3ao|3cf|1gj br do|3bq|3bk|3r|3aq|3aw|3eq|3ar|3ao|3cf|1dq br do|3bq|3bk|3r|3aq",
   "3aw|3eq|3ar|3ao|3cf|2lh br do|4bq|4bk|4r|4aq|4aw|4eq|4ar|4ao|4cf|1MONOSPACE br do|3bq|3bk|3r",
   "3aq|3aw|3eq|3ar|3ao|3cf|0SIGNWRITING dh bi|1fa bi|1uf bi|1vd bi|1fh bi|1hv bi|1dh bi lc",
   "1fa bi lc|1dh cp xu bi lc|2bi ha KNUCKLE|3CUPPED|3ky|4hj|1fa bi HINGE|1dh bi af|1fa bi af",
   "1dh bi af lc|4ha KNUCKLES|4ky|3UP af ky|3ky af UP|3af fz|5bi lc|5af lc|5CUPPED|5ky|4mj",
   "1fa bi af mj|1dh af lc cs bi|2bi lc cs af|3af cp|1fa bi af cp|1dh bi af fo cp lc|4lc cp fo",
   "4cp lc|4ky nm cp mm|3UP af ky cp mm|7fz|3ky af UP cp mm|3af UP nm cp hz|4cp CUPPED|5ch|5HOOKED",
   "5ky|2cp in bi af fo|2bi af fz cp mm|7fz|7lc|2af cp HOOKED bi UP|2bi cp HOOKED af UP",
   "3af fz ky cp mm|4mj cp mm|4fz cp hz|5CUPPED cp hz|2af cp CUPPED bi UP|2bi cp CUPPED af UP",
   "2af cp ch bi UP|6ky|2bi cp ANGLED OUT af UP|5IN af UP|4ch af UP|3af cp fz ky|5ANGLED OUT|6",
   "2af cp ANGLED OUT bi UP|7mj|5bi UP|2bi cp HOOKED af ky|1HAND-FLAT aq gg|4lc|4ky|4fz|5SPLIT",
   "1HAND-CLAW aq gg fz|1dh aq gg fz lc|1fh aq gg fz|1HAND-FLAT aw gg nm|2HEEL aw gg nm",
   "2aw gg nm aq lc|2HEEL aw gg nm aq lc|2aw gg nm lc|2HEEL aw gg nm lc|2aw gg nm cp hz",
   "1uf aw gg nm|5ea|1fh aw gg nm ea|1vd aw gg nm|1HAND-FLAT aw gg nm ky|6cp mm|6NO cp|2",
   "2in PALM FACINGS|2HEEL|2cp mm|2HEEL cp mm|2cp lc|3hz|2SPLIT bi cp mm|3cw|4cp mm|6lc|3dd",
   "1HAND-CLAW|2cp mm|2NO cp|2cp hz|1ve CURLICUE|2|1uf ea|2|2ea cp mm|2cp mm|2ea NO cp|2NO cp",
   "2ea cp hz|2cp hz|1zn ea|2|1fa|1vd|2cp mm|2NO cp|2cp hz|1fh ea|3cp hz|2|2k|2ea cp mm|2cp mm",
   "2ea NO cp|2NO cp|2cp mm TOUCHING bi|3in af de|1hv|1dh bi af de|1fa bi af de|1fh bi af de",
   "1hv bi af de|1fh dd|1dh bi af de lc|5fz|1fh bi af de fz|1dh dd bz|4RIPPLE fo|5qa|4OTHERS ch",
   "3UP|2cp xu dd UP|1fa dd UP|1vd dd UP|1hv dd UP|1dh dd ha KNUCKLE|3lc|3TOUCHES cp|3cp|1fh dd cp",
   "1dh dd bi cp|1fh dd bi cp|1hv dd bi cp bi cp OUT|7|1dh dd bi|1fa dd bi|1fh dd bi|1hv dd bi",
   "1dh bi af dd|1fa bi af dd|1fh bi af dd|2de|1hv bi af dd|1dh bi af fk dd|1fa bi af fk dd",
   "1dh de bz|1fh de bz bi cp be af|1hv de bz af cp bi fk|1dh de UP|3ha KNUCKLE|3dd|1fa de dd",
   "1vd de dd|1hv de dd|1dh de af|4fz|4ha KNUCKLES|3bi|3cp|1ve de cp|1dh bi de dd|1fa bi de dd",
   "1zn bi de dd ON|1ve bi de dd OUT|5IN|5xu|1uf bi de dd|1fh bi de dd|1hv bi de dd OUT|5",
   "1dh af bz|1fh af|1dh af UP|1fa af UP|1dh af ha KNUCKLE|3UP cp mm|1ve af cp|1dh af cp dd|3dd",
   "3de dd|1fa af de dd|1zn af de dd ON|1uf af de dd|1fh af de dd|1hv af de dd OUT|5IN|5",
   "1fa af de dd lc|1HAND-CLAW af de dd fz|6mm|1ve af de dd fz OUT|6IN|6|1fh bi ky|1dh bi cp mm",
   "1fh bi cp mm|1dh bi cp mm cp co|6fz|6lc|5bi lc|5BOTH lc|5bi HINGE|4hz bi fo|6lc|4be|4CURLICUE",
   "4mb cp jf|1HAND-CLAW bi cp mb cp jf|1dh bi cp mb cp xu|4am|1uf bi cp|4ea|1fh bi cp ea|4cz|4|4k",
   "1hv bi cp OUT|4IN|4|1dh cp|3HEEL|3mm co|4fz|4lc|3hz|3in bi af|4af de|4de dd|3xu bk gg",
   "3cs bk gg|3xu r gg|4aq gg|3cs aq ha KNUCKLES|2|2HEEL|1TOUCH bv|2ji|2in|1GRASP bv|2ji|2in",
   "1STRIKE bv|2ji|2in|1BRUSH bv|2ji|2in|1RUB bv|2ji|2in|1SURFACE SYMBOLS|2in|1SQUEEZE cz bv|2k bv",
   "2cz ji|2k ji|2yp|1FLICK cz bv|2k bv|2cz ji|2k ji|2yp|1SQUEEZE FLICK ep",
   "1MOVEMENT-HINGE UP bz cz|4k|3yp|2bz yp|2UP bz ep cz|5k|2mm TO mm tu|1dr vf wr|1dj vf wr",
   "1dr bv fo k|4ba|4cz|4qc|3sn FLEX|2l fo|3sn FLEX|3ep|4sn FLEX|2fk|2dm fo ps|3sn FLEX|3ep",
   "4sn FLEX|2BEND k|3ba|3cz|2fv k|3ba|3cz|3ROTATION|2sk k|3ba|3cz|2wg k|3ba|3cz|2ul k|3ba|3cz",
   "2PEAKS k|3ba|3cz|1TRAVEL-WALLPLANE jz bv|3l|3ep|2jq bv|3l|3ep|2SHAKING|2ARM SPIRAL bv|4l|4dm",
   "1MOVEMENT-DIAGONAL AWAY k|3ba|3cz|3qc|2TOWARDS k|3ba|3cz|3qc|2in AWAY k|4ba|4cz|4qc|3TOWARDS k",
   "4ba|4cz|4qc|1dj bv fo k|4ba|4cz|4qc|3sn FLEX|2l fo|3sn FLEX|3ep|4sn FLEX|2fk|2dm fo ps",
   "3sn FLEX|3ep ps|4sn FLEX|2BEND|2fv k|3ba|3cz|2sk|2wg k|3ba|3cz|2ul k|3ba|3cz|2PEAKS k|3ba|3cz",
   "1TRAVEL-FLOORPLANE jq bv|3l|3ep|2jz bv|3l|3ep|2SHAKING|1dr mb ef k|4ba|4cz|4qc|3HALF-CIRCLE k",
   "4ba|4cz|4qc|3THREE-QUARTER am k|5ba|2HUMP k|3ba|3cz|2sz k|3ba|3cz|3k l|2pd mb l k|5ba|5cz",
   "4dm k|5ba|5cz|2mb THEN fo|2qa fk k|4ba|1jz bv|2l|2eo|1dr SHAKING|2mb et FRONT WALL",
   "2HUMP et FRONT WALL|2sz et FRONT WALL|2pd et FRONT WALL|1jz bv et FRONT WALL|2l et FRONT WALL",
   "2ep et FRONT WALL|1dr mb et CHEST|2HUMP et CHEST|2sz et CHEST|2pd et CHEST|1jz bv et CHEST",
   "2l et CHEST|2ep et CHEST|1dr pd co PATH k|5ba|5cz|1dj mb et py k|5cz|2HUMP et py k l|5cz l",
   "5k dm|5cz dm|2sz et py k bv|5cz bv|5k l|5cz l|2pd et py k|5cz|1jq bv et py|2l et py|2ep et py",
   "1dj mb et vu k|5cz|2HUMP et vu k l|5cz l|5dm k dm|6cz dm|2sz et vu k bv|5cz bv|5k l|5cz l",
   "2pd et vu k|5cz|1jq bv et vu|2l et vu|2ep et vu|1dj mb k|3ba|3cz|3qc|3COMBINED|2HUMP k|2sz k",
   "2pd SNAKE|3k|3cz|1jq bv|2l|2ep|1dj SHAKING pf|1dr ARM am k bv|4ba bv|4k l|4ba l",
   "1dj ARM am et WALL k bv|6ba bv|6cz bv|6k l|6ba l|6cz l|1dr sn am FRONT bv|5l",
   "1dj sn am et WALL bv|6l|1dr vf kx bv|4l|1dj vf kx et WALL bv|6l|1DYNAMIC ak k|3cz|2FAST|2SLOW",
   "2TENSE|2RELAXED|2SIMULTANEOUS|3ep|2EVERY OTHER TIME|2GRADUAL|1qx|2RIM|2dr fo|3TILT|2dj fo",
   "2dr mb|2dj mb|2ps am|1cn DIRECTION POSITION NOSE hz TILTING|5UP OR bz|8TILTING|1EYEBROWS fo UP",
   "3hc|3bz|1DREAMY EYEBROWS hc bz|3bz hc|3UP hc|3hc UP|1FOREHEAD hc|2wr|2rn|1qd ea|2SQUEEZED|2fs",
   "1EYE BLINK bv|3ji|1qd cc ea|2WIDE ea|2cc fs|2WIDENING ps|1EYE WINK|1EYELASHES UP|2bz",
   "2FLUTTERING|1ug fo|3l|3ep|1EYEGAZE-FLOORPLANE fo|3l|3ep|1ug qa|1EYEGAZE-FLOORPLANE qa",
   "1ug CIRCLING|1CHEEKS PUFFED|2hc|2SUCKED|1TENSE CHEEKS es|3af|3hj|1EARS|1NOSE hc|2wr|2WRINKLES",
   "2WIGGLES|1AIR BLOWING OUT|2SUCKING IN|2BLOW k ROTATIONS|2SUCK k ROTATIONS|1BREATH INHALE",
   "2EXHALE|1ku fs hc|3hz|3wr|2SMILE|3rn|3ea|2FROWN|3rn|3ea|2ea am|3hz|3rn|3OVAL|4rn|4YAWN|3pi|4rn",
   "4YAWN|2KISS|3hz|3rn|2TENSE|3hz|3SUCKED|1LIPS PRESSED TOGETHER|1LIP bs cs cm|2cm cs bs|1ku wk",
   "2WRINKLES bv|3l|1yj STICKING OUT FAR|2LICKING LIPS|2TIP in LIPS|3TOUCHING jf ku|2jf ku RELAXED",
   "2MOVES AGAINST CHEEK|2cw STICKING OUT|3jf ku|1TEETH|2ps|2ON yj|4ps|3LIPS|4ps|2BITE LIPS",
   "1dr JAW|1dj JAW|1NECK|1HAIR|1EXCITEMENT|1SHOULDER HIP SPINE|3POSITIONS",
   "1WALLPLANE SHOULDER HIP MOVE|1FLOORPLANE SHOULDER HIP MOVE|1SHOULDER TILTING km WAIST",
   "1TORSO-WALLPLANE fo STRETCH|2qa BEND|1TORSO-FLOORPLANE TWISTING|1cm BODY TILTING km HIP JOINTS",
   "1LIMB COMBINATION|2LENGTH-1|+6|1vf|1LOCATION-WALLPLANE kc|1LOCATION-FLOORPLANE kc",
   "1LOCATION HEIGHT|2WIDTH|2DEPTH|2qx NECK|2TORSO|2LIMBS DIGITS|1du|1gy ex|1iu|1hl|1bb",
   "@1DA9B 1wh MODIFIER-2|+4|@1DAA1 1ROTATION MODIFIER-2|+14|@1DF00 0ek k a FENG fj b TRILL",
   "3as hn G|1a k c bl G|1k a as K|1a k c L b BELT|1k a LEZH b by be|3bl Y b BELT|3as ENG",
   "3bl R b eg LEG s by be|3T b be s by be|1a by ta b by be|1k a ESH b l fb|7s ow|3bl T b ow",
   "1a bf gf ex b ow|2STRETCHED C b ow|2k c bl K|1k a L b qp|3DEZH fj b fd be|3L b BELT s fd be",
   "3ENG b fd be|3bl R b fd be|3R b qp s fd be|3TESH fj b fd be|3EZH b fd be|3DEZH fj b by be",
   "3I b ad s by be|3O b by be|3TESH fj b by be|3C b by be|3S b ow"]

end CodeLint.Text
