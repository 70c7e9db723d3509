/-!
Names of characters: syllables and presentation forms.
The entries are explained where the names are looked up.
-/

namespace CodeLint.Text

set_option maxRecDepth 20000

def syllableNames : List String :=
  ["@A000 0YI hh IT|2IX|2I|2IP|2IET|2IEX|2IE|2IEP|2AT|2AX|2A|2AP|2UOX|2UO|2UOP|2OT|2OX|2O|2OP|2EX",
   "2E|2WU|2BIT|2BIX|2BI|2BIP|2BIET|2BIEX|2BIE|2BIEP|2BAT|2BAX|2BA|2BAP|2BUOX|2BUO|2BUOP|2BOT|2wg",
   "2BO|2BOP|2BEX|2BE|2BEP|2BUT|2BUX|2BU|2BUP|2BURX|2BUR|2BYT|2BYX|2BY|2BYP|2BYRX|2BYR|2PIT|2PIX",
   "2PI|2PIP|2PIEX|2PIE|2PIEP|2PAT|2PAX|2PA|2PAP|2PUOX|2PUO|2PUOP|2POT|2POX|2PO|2POP|2PUT|2PUX|2PU",
   "2PUP|2PURX|2PUR|2PYT|2PYX|2PY|2PYP|2PYRX|2PYR|2BBIT|2BBIX|2BBI|2BBIP|2BBIET|2BBIEX|2BBIE",
   "2BBIEP|2BBAT|2BBAX|2BBA|2BBAP|2BBUOX|2BBUO|2BBUOP|2BBOT|2BBOX|2BBO|2BBOP|2BBEX|2BBE|2BBEP",
   "2BBUT|2BBUX|2BBU|2BBUP|2BBURX|2BBUR|2BBYT|2BBYX|2BBY|2BBYP|2NBIT|2NBIX|2NBI|2NBIP|2NBIEX|2NBIE",
   "2NBIEP|2NBAT|2NBAX|2NBA|2NBAP|2NBOT|2NBOX|2NBO|2NBOP|2NBUT|2NBUX|2NBU|2NBUP|2NBURX|2NBUR|2NBYT",
   "2NBYX|2NBY|2NBYP|2NBYRX|2NBYR|2HMIT|2HMIX|2HMI|2HMIP|2HMIEX|2HMIE|2HMIEP|2HMAT|2HMAX|2HMA",
   "2HMAP|2HMUOX|2HMUO|2HMUOP|2HMOT|2HMOX|2HMO|2HMOP|2HMUT|2HMUX|2HMU|2HMUP|2HMURX|2HMUR|2HMYX",
   "2HMY|2HMYP|2HMYRX|2HMYR|2MIT|2MIX|2MI|2MIP|2MIEX|2MIE|2MIEP|2MAT|2MAX|2MA|2MAP|2MUOT|2MUOX",
   "2MUO|2MUOP|2MOT|2MOX|2MO|2MOP|2MEX|2ME|2MUT|2MUX|2MU|2MUP|2MURX|2MUR|2MYT|2MYX|2MY|2MYP|2FIT",
   "2FIX|2FI|2FIP|2FAT|2FAX|2FA|2FAP|2FOX|2FO|2FOP|2FUT|2FUX|2FU|2FUP|2FURX|2FUR|2FYT|2FYX|2FY",
   "2FYP|2VIT|2VIX|2VI|2VIP|2VIET|2VIEX|2VIE|2VIEP|2VAT|2VAX|2VA|2VAP|2VOT|2VOX|2VO|2VOP|2VEX|2VEP",
   "2VUT|2VUX|2VU|2VUP|2VURX|2VUR|2VYT|2VYX|2VY|2VYP|2VYRX|2VYR|2DIT|2DIX|2DI|2DIP|2DIEX|2DIE",
   "2DIEP|2DAT|2DAX|2DA|2DAP|2DUOX|2DUO|2cq|2DOX|2DO|2DOP|2DEX|2DE|2DEP|2DUT|2DUX|2DU|2DUP|2DURX",
   "2DUR|2TIT|2TIX|2TI|2TIP|2TIEX|2TIE|2TIEP|2TAT|2TAX|2TA|2TAP|2TUOT|2TUOX|2TUO|2TUOP|2TOT|2TOX",
   "2TO|2pu|2TEX|2TE|2TEP|2TUT|2TUX|2TU|2TUP|2TURX|2TUR|2DDIT|2DDIX|2DDI|2DDIP|2DDIEX|2DDIE|2DDIEP",
   "2DDAT|2DDAX|2nb|2DDAP|2DDUOX|2DDUO|2DDUOP|2DDOT|2DDOX|2DDO|2DDOP|2DDEX|2DDE|2DDEP|2DDUT|2DDUX",
   "2DDU|2DDUP|2DDURX|2DDUR|2NDIT|2NDIX|2NDI|2NDIP|2NDIEX|2NDIE|2NDAT|2NDAX|2NDA|2NDAP|2NDOT|2NDOX",
   "2NDO|2NDOP|2NDEX|2NDE|2NDEP|2NDUT|2NDUX|2NDU|2NDUP|2NDURX|2NDUR|2HNIT|2HNIX|2HNI|2HNIP|2HNIET",
   "2HNIEX|2HNIE|2HNIEP|2HNAT|2HNAX|2HNA|2HNAP|2HNUOX|2HNUO|2HNOT|2HNOX|2HNOP|2HNEX|2HNE|2HNEP",
   "2HNUT|2NIT|2NIX|2NI|2NIP|2NIEX|2NIE|2NIEP|2NAX|2NA|2NAP|2NUOX|2NUO|2NUOP|2kz|2NOX|2NO|2NOP",
   "2NEX|2NE|2NEP|2NUT|2NUX|2NU|2NUP|2NURX|2NUR|2HLIT|2HLIX|2HLI|2HLIP|2HLIEX|2HLIE|2HLIEP|2HLAT",
   "2HLAX|2HLA|2HLAP|2HLUOX|2HLUO|2HLUOP|2HLOX|2HLO|2HLOP|2HLEX|2HLE|2HLEP|2HLUT|2HLUX|2HLU|2HLUP",
   "2HLURX|2HLUR|2HLYT|2HLYX|2HLY|2HLYP|2HLYRX|2HLYR|2LIT|2LIX|2LI|2LIP|2LIET|2LIEX|2LIE|2LIEP",
   "2LAT|2LAX|2LA|2LAP|2LUOT|2LUOX|2LUO|2LUOP|2LOT|2LOX|2LO|2LOP|2LEX|2LE|2LEP|2LUT|2LUX|2LU|2LUP",
   "2LURX|2LUR|2LYT|2LYX|2LY|2LYP|2LYRX|2LYR|2GIT|2GIX|2GI|2GIP|2GIET|2GIEX|2GIE|2GIEP|2GAT|2GAX",
   "2GA|2GAP|2GUOT|2GUOX|2GUO|2GUOP|2GOT|2GOX|2GO|2GOP|2GET|2GEX|2GE|2GEP|2GUT|2GUX|2GU|2GUP|2GURX",
   "2GUR|2KIT|2KIX|2KI|2KIP|2KIEX|2KIE|2KIEP|2KAT|2KAX|2KA|2KAP|2KUOX|2KUO|2KUOP|2KOT|2KOX|2KO",
   "2KOP|2KET|2KEX|2KE|2KEP|2KUT|2KUX|2KU|2KUP|2KURX|2KUR|2GGIT|2GGIX|2GGI|2GGIEX|2GGIE|2GGIEP",
   "2GGAT|2GGAX|2GGA|2GGAP|2GGUOT|2GGUOX|2GGUO|2GGUOP|2GGOT|2GGOX|2GGO|2GGOP|2GGET|2GGEX|2GGE",
   "2GGEP|2GGUT|2GGUX|2GGU|2GGUP|2GGURX|2GGUR|2MGIEX|2MGIE|2MGAT|2MGAX|2MGA|2MGAP|2MGUOX|2MGUO",
   "2MGUOP|2MGOT|2MGOX|2MGO|2MGOP|2MGEX|2MGE|2MGEP|2MGUT|2MGUX|2MGU|2MGUP|2MGURX|2MGUR|2HXIT|2HXIX",
   "2HXI|2HXIP|2HXIET|2HXIEX|2HXIE|2HXIEP|2HXAT|2HXAX|2HXA|2HXAP|2HXUOT|2HXUOX|2HXUO|2HXUOP|2HXOT",
   "2HXOX|2HXO|2HXOP|2HXEX|2HXE|2HXEP|2NGIEX|2NGIE|2NGIEP|2NGAT|2NGAX|2ja|2NGAP|2NGUOT|2NGUOX",
   "2NGUO|2NGOT|2NGOX|2NGO|2NGOP|2NGEX|2NGE|2NGEP|2HIT|2HIEX|2HIE|2HAT|2HAX|2HA|2HAP|2HUOT|2HUOX",
   "2HUO|2HUOP|2HOT|2HOX|2HO|2HOP|2HEX|2HE|2HEP|2WAT|2WAX|2WA|2WAP|2WUOX|2WUO|2WUOP|2WOX|2WO|2WOP",
   "2WEX|2WE|2WEP|2ZIT|2ZIX|2ZI|2ZIP|2ZIEX|2ZIE|2ZIEP|2ZAT|2ZAX|2ZA|2ZAP|2ZUOX|2ZUO|2ZUOP|2ZOT",
   "2ZOX|2ZO|2ZOP|2ZEX|2ZE|2ZEP|2ZUT|2ZUX|2ZU|2ZUP|2ZURX|2ZUR|2ZYT|2ZYX|2ZY|2ZYP|2ZYRX|2ZYR|2CIT",
   "2CIX|2CI|2CIP|2CIET|2CIEX|2CIE|2CIEP|2CAT|2CAX|2CA|2CAP|2CUOX|2CUO|2CUOP|2COT|2COX|2CO|2COP",
   "2CEX|2CE|2CEP|2CUT|2CUX|2CU|2CUP|2CURX|2CUR|2CYT|2CYX|2CY|2CYP|2CYRX|2CYR|2ZZIT|2ZZIX|2ZZI",
   "2ZZIP|2ZZIET|2ZZIEX|2ZZIE|2ZZIEP|2ZZAT|2ZZAX|2ZZA|2ZZAP|2ZZOX|2ZZO|2ZZOP|2ZZEX|2ZZE|2ZZEP",
   "2ZZUX|2ZZU|2ZZUP|2ZZURX|2ZZUR|2ZZYT|2ZZYX|2ZZY|2ZZYP|2ZZYRX|2ZZYR|2NZIT|2NZIX|2NZI|2NZIP",
   "2NZIEX|2NZIE|2NZIEP|2NZAT|2NZAX|2NZA|2NZAP|2NZUOX|2NZUO|2NZOX|2NZOP|2NZEX|2NZE|2NZUX|2NZU",
   "2NZUP|2NZURX|2NZUR|2NZYT|2NZYX|2NZY|2NZYP|2NZYRX|2NZYR|2SIT|2eq|2SI|2SIP|2SIEX|2SIE|2SIEP|2SAT",
   "2SAX|2SA|2SAP|2SUOX|2SUO|2SUOP|2SOT|2SOX|2SO|2SOP|2SEX|2SE|2SEP|2SUT|2SUX|2SU|2SUP|2SURX|2SUR",
   "2SYT|2SYX|2SY|2SYP|2SYRX|2SYR|2SSIT|2SSIX|2SSI|2SSIP|2SSIEX|2SSIE|2SSIEP|2SSAT|2SSAX|2pv|2SSAP",
   "2SSOT|2SSOX|2SSO|2SSOP|2SSEX|2SSE|2SSEP|2SSUT|2SSUX|2SSU|2SSUP|2SSYT|2SSYX|2SSY|2SSYP|2SSYRX",
   "2SSYR|2ZHAT|2ZHAX|2zv|2ZHAP|2ZHUOX|2ZHUO|2ZHUOP|2ZHOT|2ZHOX|2ZHO|2ZHOP|2ZHET|2ZHEX|2ZHE|2ZHEP",
   "2ZHUT|2ZHUX|2ZHU|2ZHUP|2ZHURX|2ZHUR|2ZHYT|2ZHYX|2ZHY|2ZHYP|2ZHYRX|2ZHYR|2CHAT|2CHAX|2js|2CHAP",
   "2CHUOT|2CHUOX|2CHUO|2CHUOP|2CHOT|2CHOX|2CHO|2CHOP|2CHET|2CHEX|2CHE|2CHEP|2CHUX|2CHU|2CHUP",
   "2CHURX|2CHUR|2CHYT|2CHYX|2CHY|2CHYP|2CHYRX|2CHYR|2RRAX|2RRA|2RRUOX|2RRUO|2RROT|2RROX|2RRO",
   "2RROP|2RRET|2RREX|2RRE|2RREP|2RRUT|2RRUX|2RRU|2RRUP|2RRURX|2RRUR|2RRYT|2RRYX|2RRY|2RRYP|2RRYRX",
   "2RRYR|2NRAT|2NRAX|2NRA|2NRAP|2NROX|2NRO|2NROP|2NRET|2NREX|2NRE|2NREP|2NRUT|2NRUX|2NRU|2NRUP",
   "2NRURX|2NRUR|2NRYT|2NRYX|2NRY|2NRYP|2NRYRX|2NRYR|2SHAT|2SHAX|2jb|2SHAP|2SHUOX|2SHUO|2SHUOP",
   "2SHOT|2SHOX|2SHO|2SHOP|2SHET|2SHEX|2si|2SHEP|2SHUT|2SHUX|2SHU|2SHUP|2SHURX|2SHUR|2SHYT|2SHYX",
   "2SHY|2SHYP|2SHYRX|2SHYR|2RAT|2RAX|2RA|2RAP|2RUOX|2RUO|2RUOP|2ROT|2ROX|2RO|2ROP|2REX|2RE|2REP",
   "2RUT|2RUX|2RU|2RUP|2RURX|2RUR|2RYT|2RYX|2RY|2RYP|2RYRX|2RYR|2JIT|2JIX|2JI|2JIP|2JIET|2JIEX",
   "2JIE|2JIEP|2JUOT|2JUOX|2JUO|2JUOP|2JOT|2JOX|2JO|2JOP|2JUT|2JUX|2JU|2JUP|2JURX|2JUR|2JYT|2JYX",
   "2JY|2JYP|2JYRX|2JYR|2QIT|2QIX|2QI|2QIP|2QIET|2QIEX|2QIE|2QIEP|2QUOT|2QUOX|2QUO|2QUOP|2QOT|2QOX",
   "2QO|2QOP|2QUT|2QUX|2QU|2QUP|2QURX|2QUR|2QYT|2QYX|2QY|2QYP|2QYRX|2QYR|2JJIT|2JJIX|2JJI|2JJIP",
   "2JJIET|2JJIEX|2JJIE|2JJIEP|2JJUOX|2JJUO|2JJUOP|2JJOT|2JJOX|2JJO|2JJOP|2JJUT|2JJUX|2JJU|2JJUP",
   "2JJURX|2JJUR|2JJYT|2JJYX|2JJY|2JJYP|2NJIT|2NJIX|2NJI|2NJIP|2NJIET|2NJIEX|2NJIE|2NJIEP|2NJUOX",
   "2NJUO|2NJOT|2NJOX|2NJO|2NJOP|2NJUX|2NJU|2NJUP|2NJURX|2NJUR|2NJYT|2NJYX|2NJY|2NJYP|2NJYRX|2NJYR",
   "2NYIT|2NYIX|2NYI|2NYIP|2NYIET|2NYIEX|2NYIE|2NYIEP|2NYUOX|2NYUO|2NYUOP|2NYOT|2NYOX|2NYO|2NYOP",
   "2NYUT|2NYUX|2NYU|2NYUP|2XIT|2XIX|2XI|2XIP|2XIET|2XIEX|2XIE|2XIEP|2XUOX|2XUO|2XOT|2XOX|2XO|2XOP",
   "2XYT|2XYX|2XY|2XYP|2XYRX|2XYR|2YIT|2YIX|2YI|2YIP|2YIET|2YIEX|2YIE|2YIEP|2YUOT|2YUOX|2YUO|2YUOP",
   "2YOT|2YOX|2YO|2YOP|2YUT|2YUX|2YU|2YUP|2YURX|2YUR|2YYT|2YYX|2YY|2YYP|2YYRX|2YYR",
   "@A490 1RADICAL QOT|2LI|2KIT|2NYIP|2CYP|2SSI|2GGOP|2GEP|2MI|2HXIT|2LYR|2BBUT|2MOP|2YO|2PUT",
   "2HXUO|2TAT|2GA|2ZUP|2CYT|2DDUR|2BUR|2GGUO|2NYOP|2TU|2OP|2JJUT|2ZOT|2PYT|2HMO|2YIT|2VUR|2SHY",
   "2VEP|2ZA|2JO|2NZUP|2JJY|2GOT|2JJIE|2WO|2DU|2SHUR|2LIE|2CY|2CUOP|2CIP|2HXOP|2SHAT|2ZUR|2SHOP",
   "2CHE|2ZZIET|2NBIE|2KE|@A4D0 0LISU a BA|2PA|2lp|2DA|2TA|2kk|2GA|2KA|2jx|2JA|2CA|2js|2DZA|2uj",
   "2us|2MA|2NA|2LA|2SA|2zv|2ZA|2ja|2HA|2XA|2HHA|2FA|2WA|2jb|2YA|2nn|2A|2AE|2E|2EU|2I|2O|2U|2UE",
   "2UH|2OE|2em MYA TI|3NA PO|3MYA CYA|4BO|4NA|4JEU|1az du|2gy ex|0VAI hh EE|2EEN|2HEE|2WEE|2WEEN",
   "2PEE|2BHEE|2BEE|2MBEE|2KPEE|2MGBEE|2GBEE|2FEE|2VEE|2TEE|2THEE|2DHEE|2DHHEE|2LEE|2REE|2DEE",
   "2NDEE|2SEE|2SHEE|2ZEE|2ZHEE|2CEE|2JEE|2NJEE|2YEE|2KEE|2NGGEE|2GEE|2MEE|2NEE|2NYEE|2I|2IN|2HI",
   "2HIN|2WI|2WIN|2PI|2BHI|2BI|2MBI|2KPI|2MGBI|2GBI|2FI|2VI|2TI|2THI|2DHI|2DHHI|2LI|2RI|2DI|2NDI",
   "2SI|2SHI|2ZI|2ZHI|2CI|2JI|2NJI|2YI|2KI|2NGGI|2GI|2MI|2NI|2NYI|2A|2AN|2NGAN|2HA|2HAN|2WA|2WAN",
   "2PA|2ot|2BA|2MBA|2KPA|2KPAN|2MGBA|2GBA|2FA|2VA|2TA|2kk|2no|2DHHA|2LA|2RA|2DA|2NDA|2SA|2jb|2ZA",
   "2zv|2CA|2JA|2NJA|2YA|2KA|2KAN|2NGGA|2GA|2MA|2NA|2jv|2OO|2OON|2HOO|2WOO|2WOON|2POO|2BHOO|2BOO",
   "2MBOO|2KPOO|2MGBOO|2GBOO|2FOO|2VOO|2TOO|2THOO|2DHOO|2DHHOO|2LOO|2ROO|2DOO|2NDOO|2SOO|2SHOO",
   "2ZOO|2ZHOO|2COO|2JOO|2NJOO|2YOO|2KOO|2NGGOO|2GOO|2MOO|2NOO|2NYOO|2U|2UN|2HU|2HUN|2WU|2WUN|2PU",
   "2BHU|2BU|2MBU|2KPU|2MGBU|2GBU|2FU|2VU|2TU|2THU|2DHU|2DHHU|2LU|2RU|2DU|2NDU|2SU|2SHU|2ZU|2ZHU",
   "2CU|2JU|2NJU|2YU|2KU|2NGGU|2GU|2MU|2NU|2NYU|2O|2ON|2NGON|2HO|2HON|2WO|2WON|2PO|2BHO|2BO|2MBO",
   "2KPO|2MGBO|2GBO|2GBON|2FO|2VO|2TO|2THO|2DHO|2DHHO|2LO|2RO|2DO|2NDO|2SO|2SHO|2ZO|2ZHO|2CO|2JO",
   "2NJO|2YO|2KO|2NGGO|2GO|2MO|2NO|2NYO|2E|2EN|2NGEN|2HE|2HEN|2WE|2WEN|2PE|2BHE|2BE|2MBE|2KPE",
   "2KPEN|2MGBE|2GBE|2GBEN|2FE|2VE|2TE|2qn|2DHE|2DHHE|2LE|2RE|2DE|2NDE|2SE|2si|2ZE|2ZHE|2CE|2JE",
   "2NJE|2YE|2KE|2NGGE|2NGGEN|2GE|2GEN|2ME|2NE|2NYE|2NG|2yk|1du|1gy ex|1dy z|1hh NDOLE FA|3KA|3SOO",
   "1u FEENG|2KEENG|2TING|2NII|2BANG|2FAA|2TAA|2DANG|2DOONG|2KUNG|2TONG|2DO-O|2JONG|1br do|2bq|2bk",
   "2r|2aq|2aw|2eq|2ar|2ao|2cf|1hh NDOLE MA|3DO|@A640 0iq c a ZEMLYA|-|1c a DZELO|-|1c a as DZE|-",
   "1c a la|-|1c a DJERV|-|1c a MONOGRAPH UK|-|1c a BROAD hg|-|1c a hc YER|-|1c a YERU b BACK YER",
   "-|1c a ln YAT|-|1c a as YU|-|1c a ln A|-|1c a fs dd zr|-|1c a BLENDED zr|-|1c a ln fs dd zr|-",
   "1c a YN|-|1c a as TSE|-|1c a SOFT DE|-|1c a SOFT EL|-|1c a SOFT EM|-|1c a MONOCULAR O|-",
   "1c a BINOCULAR O|-|1c a l MONOCULAR O|-|1a MULTIOCULAR O|0cg iq VZMET|2ii qt f|2ab qt f",
   "2ac qt f|0SLAVONIC cd|0cg iq a UKRAINIAN IE|3I|3YI|3U|3HARD f|3YERU|3SOFT f|3hg|2KAVYKA",
   "2PAYEROK|0iq KAVYKA|1PAYEROK|1c a DWE|-|1c a DZWE|-|1c a ZHWE|-|1c a CCHE|-|1c a DZZE|-",
   "1c a TE b af be|-|1c a TWE|-|1c a TSWE|-|1c a TSSE|-|1c a TCHE|-|1c a HWE|-|1c a SHWE|-",
   "1c a l O|-|1c a mj O|-|0dt a iq HARD f|3SOFT f|0cg iq a EF|3ln E|0BAMUM a A|2KA|2U|2KU|2EE",
   "2REE|2TAE|2O|2NYI|2I|2LA|2PA|2RII|2RIEE|2LEEEE|2MEEEE|2TAA|2NDAA|2NJAEM|2M|2SUU|2MU|2SHII|2SI",
   "2SHEUX|2SEUX|2KYEE|2KET|2NUAE|2NU|2NJUAE|2YOQ|2SHU|2YUQ|2YA|2NSHA|2KEUX|2PEUX|2NJEE|2NTEE|2PUE",
   "2WUE|2PEE|2FEE|2RU|2LU|2MI|2NI|2REUX|2RAE|2KEN|2NGKWAEN|2NGGA|2ja|2SHO|2PUAE|2FU|2FOM|2WA|2NA",
   "2LI|2PI|2LOQ|2KO|2MBEN|2REN|2MEN|2MA|2TI|2KI|2MO|2MBAA|2TET|2KPA|2ii|2NTUU|2SAMBA|2FAAMAE",
   "2KOVUU|2KOGHOM|1cg z KOQNDON|3TUKWENTIS|1NJAEMLI|1gy ex|1hl|1du|1iu|1dy z",
   "@A700 0dt a CHINESE em YIN PING|4yv PING|4YIN SHANG|4yv SHANG|4YIN QU|4yv QU|4YIN RU|4yv RU",
   "2wv ev em fb|2es ev em fb|2MID ev em fb|2hj ev em fb|2zp ev em fb|2wv ev kf em fb",
   "2es ev kf em fb|2MID ev kf em fb|2hj ev kf em fb|2zp ev kf em fb|2wv kf em fb|2es kf em fb",
   "2MID kf em fb|2hj kf em fb|2zp kf em fb|2cq p fb|3nz|3x fb|2bs g fv el|2ha UP e|3bz e|3cv z",
   "3bf cv z|2hj bf cv z|2STRESS s es em|4hj em|0ek c a EGYPTOLOGICAL cx|-|1c a EGYPTOLOGICAL te|-",
   "1c a HENG|-|1c a TZ|-|1c a TRESILLO|-|1c a CUATRILLO|-|1c a CUATRILLO b du|-|1a k c F|4S",
   "1c a AA|-|1c a AO|-|1c a AU|-|1c a AV|-|1c a AV b x fb|-|1c a AY|-|1c a as C b cq|-",
   "1c a K b ad|-|1c a K b co ad|-|1c a K b ad s co ad|-|1c a BROKEN L|-|1c a L b es ad|-",
   "1c a O b eg ad hk|-|1c a O b sz|-|1c a OO|-|1c a P b ad mk fm|-|1c a P b FLOURISH|-",
   "1c a P b SQUIRREL he|-|1c a Q b ad mk fm|-|1c a Q b co ad|-|1c a R ROTUNDA|-|1c a RUM ROTUNDA",
   "-|1c a V b co ad|-|1c a VY|-|1c a VISIGOTHIC Z|-|1c a THORN b ad|-|1c a THORN b ad mk fm|-",
   "1c a VEND|-|1c a ET|-|1c a IS|-|1c a CON|-|0dt a US|0ek k a DUM|3LUM|3MUM|3NUM|3RUM|1a k c RUM",
   "1k a TUM|3UM|1c a md D|-|1c a md F|-|1c a md G|3bl md G|-|1c a bl L|-|1c a md R|-|1c a md S|-",
   "1c a md T|-|0dt a hj au eu|2hl|2ey fg f|0ek c a SALTILLO|-|1c a bl H|1k a L b by be s BELT",
   "1a SINOLOGICAL cq|1c a N b fm|-|1c a C b fb|-|5fd be|3H b fd be|1c a B b FLOURISH|-",
   "1c a F b ad|-|1c a VOLAPUK AE|-|1c a VOLAPUK OE|-|1c a VOLAPUK UE|-|1c a G b nt ad|-",
   "1c a K b nt ad|-|1c a N b nt ad|-|1c a R b nt ad|-|1c a S b nt ad|-|1c a H b be|3as ea E|3hn G",
   "3L b BELT|3k c I|1a k c Q|1c a bl K|4T|3J b il|3yu|3sb|-|1c a hg|-|1c a U b ad|-|1c a gf A|-",
   "1c a gf I|-|1c a gf U|-|1c a qo POLISH O|-|1c a ANGLICANA W|-|1c a C b fd be|3S b be",
   "3Z b fd be|3D b ey ad hk|-|1c a S b ey ad hk|-|@A7D0 1c a fs md G|-|@A7D3 3l THORN|@A7D5 4WYNN",
   "1c a af SCOTS S|-|1c a SIGMOID S|-|@A7F2 0dt a c C|3F|3Q|0ek c a as cc H|-|1EPIGRAPHIC a na I",
   "0dt a c H b ad|2k ed OE|0ek a k c bl M|1EPIGRAPHIC a as F|4P|3bf M|3I LONGA|3hx M",
   "0SYLOTI NAGRI a A|3I|2f DVISVARA|2a U|3E|3O|2f HASANTA|2a KO|3KHO|3GO|3GHO|2f bu|2a CO|3CHO",
   "3JO|3JHO|3TTO|3TTHO|3DDO|3DDHO|3TO|3THO|3DO|3DHO|3NO|3PO|3PHO|3BO|3BHO|3MO|3RO|3LO|3RRO|3SO",
   "3HO|2bm f A|4I|4U|4E|4OO|2POETRY MARK-1|+3|2f eo HASANTA|@A830 0fc INDIC gl bq ef|4cc|3r ia",
   "3bq rq|4gw|3r xf|2ef z|2PLACEHOLDER z|2RUPEE z|2QUANTITY z|@A840 0PHAGS-PA a KA|2jx|2GA|2ja",
   "2CA|2js|2JA|2jv|2TA|2kk|2DA|2NA|2PA|2lp|2BA|2MA|2uj|2us|2DZA|2WA|2zv|2ZA|2k A|2YA|2RA|2LA|2jb",
   "2SA|2HA|2A|2I|2U|2E|2O|2QA|2XA|2FA|2GGA|2EE|1rr a WA|3YA|1a mq|2if|2nb|2oi|2eo YA",
   "2VOICELESS jb|2qq HA|2ASPIRATED FA|1rr a RA|1SUPERFIXED a RA|1a ce|1bv qx z|1l qx z|1z tl",
   "2l tl|@A880 0SAURASHTRA f bu|2ds|1a A|2AA|2I|2II|2U|2UU|2bx R|3RR|3L|3LL|2E|2EE|2AI|2O|2OO|2AU",
   "2KA|2jx|2GA|2nn|2ja|2CA|2js|2JA|2rp|2jv|2mq|2if|2nb|2ir|2oi|2TA|2kk|2DA|2no|2NA|2PA|2lp|2BA",
   "2ot|2MA|2YA|2RA|2LA|2VA|2jb|2pv|2SA|2HA|2vk|1en f HAARU|1bm f AA|3I|3II|3U|3UU|3bx R|4RR|4L",
   "4LL|3E|3EE|3AI|3O|3OO|3AU|1f eh|2ce|@A8CE 1hw|1l hw|1br do|2bq|2bk|2r|2aq|2aw|2eq|2ar|2ao|2cf",
   "@A8E0 0cg DEVANAGARI br do|3bq|3bk|3r|3aq|3aw|3eq|3ar|3ao|3cf|2a A|3U|3KA|3NA|3PA|3RA|3VI",
   "2f hr|0DEVANAGARI f SPACING ce|2ce eh|2l ce eh|2ce bk|3r|3hr|2PUSHPIKA|1GAP ss|1vl|1HEADSTROKE",
   "1f ti|1JAIN OM|1a AY|1bm f AY|0KAYAH LI br do|3bq|3bk|3r|3aq|3aw|3eq|3ar|3ao|3cf|2a KA|3jx|3GA",
   "3ja|3SA|3jb|3ZA|3jv|3TA|3HTA|3NA|3PA|3lp|3MA|3DA|3BA|3RA|3YA|3LA|3WA|3kk|3HA|3VA|3CA|3A|3OE|3I",
   "3OO|2bm UE|3E|3U|3EE|3O|2em PLOPHU|3CALYA|4PLOPHU|2f CWI|3SHYA|0REJANG a KA|2GA|2ja|2TA|2DA",
   "2NA|2PA|2BA|2MA|2CA|2JA|2jv|2SA|2RA|2LA|2YA|2WA|2HA|2MBA|2NGGA|2NDA|2NYJA|2A|1bm f I|3U|3E|3AI",
   "3O|3AU|3EU|3EA|1en f NG|3N|3R|3H|1eh|@A95F 1ge z|0qy CHOSEONG TIKEUT-MIEUM|2TIKEUT-PIEUP",
   "2TIKEUT-SIOS|2TIKEUT-CIEUC|2tn|2RIEUL-SSANGKIYEOK|2RIEUL-TIKEUT|2RIEUL-SSANGTIKEUT|2vr|2vs",
   "2RIEUL-SSANGPIEUP|2RIEUL-KAPYEOUNPIEUP|2xp|2RIEUL-CIEUC|2RIEUL-KHIEUKH|2MIEUM-KIYEOK",
   "2MIEUM-TIKEUT|2MIEUM-SIOS|2PIEUP-SIOS-THIEUTH|2PIEUP-KHIEUKH|2PIEUP-HIEUH|2SSANGSIOS-PIEUP",
   "2IEUNG-RIEUL|2IEUNG-HIEUH|2SSANGCIEUC-HIEUH|2SSANGTHIEUTH|2PHIEUPH-HIEUH|2HIEUH-SIOS",
   "2SSANGYEORINHIEUH|@A980 0JAVANESE f PANYANGGA|2CECAK|2LAYAR|2WIGNYAN|1a A|2I KAWI|3|2II|2U",
   "2PA CEREK|2ja LELET|4RASWADI|2E|2AI|2O|2KA|3SASAK|3tp|2GA|3tp|2ja|2CA|3tp|2JA|2jv tp|2JA mr",
   "2jv|2mq|3mr|2nb|3mr|2NA tp|2TA|3tp|2DA|3mr|2NA|2PA|3tp|2BA|3tp|2MA|2YA|2RA|3AGUNG|2LA|2WA",
   "2SA tp|3mr|3|2HA|1f CECAK TELU|1bm f TARUNG|3TOLONG|3WULU|4MELIK|3SUKU|4MENDUT|3TALING",
   "3DIRGA MURE|3PEPET|1en f KERET|3PENGKAL|3CAKRA|1PANGKON|1n RERENGGAN|1g RERENGGAN|1PADA ANDAP",
   "2MADYA|2LUHUR|2WINDU|2PANGKAT|2LINGSA|2LUNGSI|2ADEG|3ADEG|2PISELEH|1bl PADA PISELEH",
   "@A9CF 1PANGRANGKEP|1br do|2bq|2bk|2r|2aq|2aw|2eq|2ar|2ao|2cf|@A9DE 1PADA TIRTA TUMETES",
   "2ISEN-ISEN|0MYANMAR a SHAN nn|3js|3rp|3oi|3ot|1f SHAN SAW|1dt a SHAN REDUPLICATION",
   "1a TAI LAING jv|4FA|4GA|4nn|4JA|4rp|4nb|4ir|4oi|1TAI LAING br do|4bq|4bk|4r|4aq|4aw|4eq|4ar",
   "4ao|4cf|1a TAI LAING vk|4DA|4no|4BA|4ot|@AA00 0CHAM a A|2I|2U|2E|2AI|2O|2KA|2jx|2GA|2nn|2NGUE",
   "2ja|2js|2CHHA|2JA|2rp|2NHUE|2NHA|2NHJA|2TA|2kk|2DA|2no|2NUE|2NA|2nb|2PA|2PPA|2lp|2BA|2ot|2MUE",
   "2MA|2BBA|2YA|2RA|2LA|2VA|2pv|2SA|2HA|1bm f AA|3I|3II|3EI|3U|3OE|3O|3AI|3AU|3UE|1en f YA|3RA",
   "3LA|3WA|@AA40 1a m K|3G|3NG|1en f m NG|1a m CH|3T|3N|3P|3Y|3R|3L|3SS|1en f m M|4H|@AA50 1br do",
   "2bq|2bk|2r|2aq|2aw|2eq|2ar|2ao|2cf|@AA5C 1az SPIRAL|2hw|2l hw|2dm hw|0MYANMAR a KHAMTI GA|3CA",
   "3js|3JA|3rp|3jv|3mq|3if|3nb|3ir|3no|3NA|3SA|3HA|3HHA|3FA|1dt a KHAMTI REDUPLICATION",
   "1a KHAMTI XA|3ZA|3RA|1yl KHAMTI OAY|3QN|3HM|1u AITON cv|3bq|3bk|1a AITON RA|1f PAO xi em",
   "2TAI LAING TONE-2|4TONE-5|1a SHWE PALAUNG js|4jb|0TAI VIET a hj KO|3es KO|3hj KHO|3es KHO",
   "3hj KHHO|3es KHHO|3hj GO|3es GO|3hj NGO|3es NGO|3hj CO|3es CO|3hj CHO|3es CHO|3hj SO|3es SO",
   "3hj NYO|3es NYO|3hj DO|3es DO|3hj TO|3es TO|3hj THO|3es THO|3hj NO|3es NO|3hj BO|3es BO|3hj PO",
   "3es PO|3hj PHO|3es PHO|3hj FO|3es FO|3hj MO|3es MO|3hj YO|3es YO|3hj RO|3es RO|3hj LO|3es LO",
   "3hj VO|3es VO|3hj HO|3es HO|3hj O|3es O|2MAI KANG|2bm AA|3I|3UE|3U|3E|3O|2MAI KHIT|2bm IA|3UEA",
   "3UA|3AUE|3AY|3AN|3AM|2em MAI EK|4NUENG|4THO|4SONG|@AADB 2u KON|3NUENG|3SAM|3HO HOI|3KOI KOI",
   "0MEETEI MAYEK a E|3O|3js|3jv|3mq|3if|3nb|3ir|3oi|3jb|3pv|2bm f II|4UU|4AAI|4AU|4AAU|2CHEIKHAN",
   "2AHANG KHUDAM|2ANJI|2hh REPETITION z|2ur REPETITION z|2bm f ds|2eh|@AB01 0ETHIOPIC hh TTHU",
   "2TTHI|2TTHAA|2TTHEE|2TTHE|2TTHO|@AB09 2DDHU|2DDHI|2DDHAA|2DDHEE|2DDHE|2DDHO|@AB11 2DZU|2DZI",
   "2DZAA|2DZEE|2DZE|2DZO|@AB20 2CCHHA|2CCHHU|2CCHHI|2CCHHAA|2CCHHEE|2CCHHE|2CCHHO|@AB28 2BBA|2BBU",
   "2BBI|2BBAA|2BBEE|2BBE|2BBO|@AB30 0ek k a uk hf|3A REVERSED-SCHWA|3BLACKLETTER E|3uk E",
   "3E b FLOURISH|3LENIS F|3hn G b il|3L b bf LAZY S|5l af cl|5af de|3M b il|3N b il|3ENG b il",
   "3BLACKLETTER O|5b ad|3ea O b ad|3bf OE|3bl OE b ad|6x ad|4O OPEN-O|6b ad|3STIRRUP R",
   "1a k c R b g LEG|1k a R WITHOUT HANDLE|3l R|3R b il|3l R b il|3hn R|5b de|3BASELINE ESH",
   "3U b ey g LEG|4fb b ey g LEG|3UI|3bl UI|3U b n be|3yu|4b hj g de|6n SERIF|3X b hj g de",
   "5eg n LEG|8s hj g de|8b SERIF|3Y b ey g LEG|0dt hd b bf hd|1a k HENG|3L b bf LAZY S|5af cl",
   "3U b n be|0ek k a SAKHA YAT|3ln E|3ea OE|3UO|3bf hf|0jc a k c hg|0ek k a DZ fj b by be",
   "3TS fj b by be|3bl R b af cl|0dt a k bl W|2n jr|2g jr|@AB70 0CHEROKEE k a A|3E|3I|3O|3U|=|3GA",
   "3KA|3GE|3GI|3GO|3GU|=|3HA|3HE|3HI|3HO|3HU|=|3LA|3LE|3LI|3LO|3LU|=|3MA|3ME|3MI|3MO|3MU|3NA|3HNA",
   "3NAH|3NE|3NI|3NO|3NU|=|3QUA|3QUE|3QUI|3QUO|3QUU|=|3SA|3S|3SE|3SI|3SO|3SU|=|3DA|3TA|3DE|3TE|3DI",
   "3TI|3DO|3DU|=|3DLA|3TLA|3TLE|3TLI|3TLO|3TLU|=|3uj|3TSE|3TSI|3TSO|3TSU|=|3WA|3WE|3WI|3WO|3WU|=",
   "3YA|0MEETEI MAYEK a KOK|3SAM|3LAI|3MIT|3PA|3NA|3CHIL|3TIL|3KHOU|3NGOU|3THOU|3WAI|3yv|3HUK|3UN",
   "3I|3PHAM|3ATIYA|3GOK|3JHAM|3RAI|3BA|3JIL|3DIL|3GHOU|3DHOU|3BHAM|3KOK uz|3LAI uz|3MIT uz|3PA uz",
   "3NA uz|3TIL uz|3NGOU uz|3I uz|2bm f ONAP|4INAP|4ANAP|4YENAP|4SOUNAP|4UNAP|4CHEINAP|4NUNG",
   "2CHEIKHEI|2LUM IYEK|2APUN IYEK|@ABF0 2br do|3bq|3bk|3r|3aq|3aw|3eq|3ar|3ao|3cf",
   "@D7B0 0qy JUNGSEONG O-YEO|2O-O-I|2YO-A|2YO-AE|2YO-EO|2U-YEO|2U-I-I|2YU-AE|2YU-O|2EU-A|2EU-EO",
   "2EU-E|2EU-O|2I-YA-O|2I-YAE|2I-YEO|2I-YE|2I-O-I|2I-YO|2I-YU|2I-I|2ARAEA-A|2ARAEA-E",
   "@D7CB 1JONGSEONG NIEUN-RIEUL|2NIEUN-CHIEUCH|2vn|2SSANGTIKEUT-PIEUP|2TIKEUT-PIEUP|2TIKEUT-SIOS",
   "2TIKEUT-SIOS-KIYEOK|2TIKEUT-CIEUC|2TIKEUT-CHIEUCH|2TIKEUT-THIEUTH|2RIEUL-SSANGKIYEOK",
   "2RIEUL-KIYEOK-HIEUH|2SSANGRIEUL-KHIEUKH|2RIEUL-MIEUM-HIEUH|2RIEUL-PIEUP-TIKEUT",
   "2RIEUL-PIEUP-PHIEUPH|2RIEUL-YESIEUNG|2RIEUL-YEORINHIEUH-HIEUH|2KAPYEOUNRIEUL|2MIEUM-NIEUN",
   "2MIEUM-SSANGNIEUN|2SSANGMIEUM|2MIEUM-PIEUP-SIOS|2MIEUM-CIEUC|2PIEUP-TIKEUT",
   "2PIEUP-RIEUL-PHIEUPH|2PIEUP-MIEUM|2xk|2tm|2PIEUP-CIEUC|2PIEUP-CHIEUCH|2SIOS-MIEUM",
   "2SIOS-KAPYEOUNPIEUP|2SSANGSIOS-KIYEOK|2SSANGSIOS-TIKEUT|2SIOS-PANSIOS|2SIOS-CIEUC",
   "2SIOS-CHIEUCH|2SIOS-THIEUTH|2SIOS-HIEUH|2PANSIOS-PIEUP|2PANSIOS-KAPYEOUNPIEUP|2YESIEUNG-MIEUM",
   "2YESIEUNG-HIEUH|2CIEUC-PIEUP|2CIEUC-SSANGPIEUP|2xn|2PHIEUPH-SIOS|2PHIEUPH-THIEUTH",
   "@FB00 0ek k ed FF|3FI|3FL|3FFI|3FFL|3eg S T|3ST|@FB13 0wy k ed MEN NOW|4ECH|4INI|3VEW NOW",
   "3MEN XEH|@FB1D 0HEBREW a YOD b HIRIQ|1qu JUDEO-SPANISH VARIKA|1ed YIDDISH YOD YOD PATAH",
   "1a ALTERNATIVE yx|2WIDE cx|3DALET|3HE|3ui|3LAMED|3m MEM|3wz|3TAV|2ALTERNATIVE bw f|2lb b lb cq",
   "4SIN cq|4ht s lb cq|6SIN cq|2cx b PATAH|4QAMATS|4MAPIQ|2BET b ht|2nr b ht|2DALET b ht",
   "2HE b MAPIQ|2VAV b ht|2qh b ht|@FB38 2TET b ht|2YOD b ht|2m ui b ht|2ui b ht|2LAMED b ht",
   "@FB3E 2MEM b ht|@FB40 2np b ht|2kj b ht|@FB43 2m PE b ht|2PE b ht|@FB46 2TSADI b ht|2QOF b ht",
   "2wz b ht|2lb b ht|2TAV b ht|2VAV b HOLAM|2BET b RAFE|2ui b RAFE|2PE b RAFE|1ed cx LAMED",
   "0je a cx WASLA h d|4m d|2BEEH h d|3m d|3q d|3bd d|2PEH h d|3m d|3q d|3bd d|2BEHEH h d|3m d",
   "3q d|3bd d|2TTEHEH h d|3m d|3q d|3bd d|2TEHEH h d|3m d|3q d|3bd d|2TTEH h d|3m d|3q d|3bd d",
   "2VEH h d|3m d|3q d|3bd d|2PEHEH h d|3m d|3q d|3bd d|2DYEH h d|3m d|3q d|3bd d|2NYEH h d|3m d",
   "3q d|3bd d|2TCHEH h d|3m d|3q d|3bd d|2TCHEHEH h d|3m d|3q d|3bd d|2DDAHAL h d|3m d|2DAHAL h d",
   "3m d|2DUL h d|3m d|2DDAL h d|3m d|2JEH h d|3m d|2RREH h d|3m d|2KEHEH h d|3m d|3q d|3bd d",
   "2GAF h d|3m d|3q d|3bd d|2GUEH h d|3m d|3q d|3bd d|2NGOEH h d|3m d|3q d|3bd d|2iw GHUNNA h d",
   "4m d|2RNOON h d|3m d|3q d|3bd d|2uo b ga j h d|6m d|3GOAL h d|4m d|4q d|4bd d|3DOACHASHMEE h d",
   "4m d|4q d|4bd d|2ga BARREE h d|4m d|4b gs j h d|7m d|1u cq j|3v|2bk cr j|4v|2r cr j|4v",
   "4ay aa j|6v|2aq cr j|4v|2l p fb v|2bk cr my j|5v|2de|2k vi j|4v|2WASLA j|@FBD3 1a NG h d|3m d",
   "3q d|3bd d|2U h d|3m d|2OE h d|3m d|2YU h d|3m d|2U b gs j h d|2VE h d|3m d|2KIRGHIZ OE h d",
   "4m d|3YU h d|4m d|2E h d|3m d|3q d|3bd d|2UIGHUR KAZAKH KIRGHIZ cx bg q d|7bd d",
   "1ed ga b gs j b cx h d|8m d|7AE h d|8m d|7qm h d|8m d|7U h d|8m d|7OE h d|8m d|7YU h d|8m d",
   "7E h d|8m d|8q d|2UIGHUR KIRGHIZ ga b gs j b cx bg h d|9cx bg m d|9cx bg q d|1a FARSI ga h d",
   "4m d|4q d|4bd d|1ed ga b gs j b ec h d|7hq h d|7bt h d|7cx bg h d|7ga h d|2BEH b ec h d",
   "4hq h d|4gp h d|4bt h d|4cx bg h d|4ga h d|2TEH b ec h d|4hq h d|4gp h d|4bt h d|4cx bg h d",
   "4ga h d|2yy b ec h d|4bt h d|4cx bg h d|4ga h d|2ec b hq h d|4bt h d|2hq b ec h d|4bt h d",
   "2gp b ec h d|4hq h d|4bt h d|2lu b ec h d|4hq h d|4gp h d|4bt h d|2yz b hq h d|4bt h d",
   "2DAD b ec h d|4hq h d|4gp h d|4bt h d|2vi b hq h d|4bt h d|2ZAH b bt h d|2te b ec h d|4bt h d",
   "2mx b ec h d|4bt h d|2yw b ec h d|4hq h d|4gp h d|4bt h d|4cx bg h d|4ga h d|2wj b hq h d",
   "4bt h d|4cx bg h d|4ga h d|2ui b cx h d|4ec h d|4hq h d|4gp h d|4qv h d|4bt h d|4cx bg h d",
   "4ga h d|2qv b ec h d|4hq h d|4gp h d|4bt h d|4cx bg h d|4ga h d|2bt b ec h d|4hq h d|4gp h d",
   "4bt h d|4cx bg h d|4ga h d|2iw b ec h d|4hq h d|4gp h d|4bt h d|4cx bg h d|4ga h d",
   "2uo b ec h d|4bt h d|4cx bg h d|4ga h d|2ga b ec h d|4hq h d|4gp h d|4bt h d|4cx bg h d",
   "4ga h d|2THAL b gk cx h d|2tc b gk cx h d|2cx bg b gk cx h d|2SHADDA b xb h d|4xc h d|4sg h d",
   "4vj h d|4qw h d|4gk cx h d|2ga b gs j b tc m d|7un m d|7bt m d|7iw m d|7cx bg m d|7ga m d",
   "2BEH b tc m d|4un m d|4bt m d|4iw m d|4cx bg m d|4ga m d|2TEH b tc m d|4un m d|4bt m d|4iw m d",
   "4cx bg m d|4ga m d|2yy b tc m d|4un m d|4bt m d|4iw m d|4cx bg m d|4ga m d|2yw b cx bg m d",
   "4ga m d|2wj b cx bg m d|4ga m d|2ui b cx m d|4qv m d|4bt m d|4cx bg m d|4ga m d|2qv b bt m d",
   "4cx bg m d|4ga m d|2bt b cx m d|4bt m d|2iw b tc m d|4un m d|4bt m d|4iw m d|4cx bg m d",
   "4ga m d|2cx bg b gk cx m d|2ga b tc m d|4un m d|4bt m d|4iw m d|4cx bg m d|4ga m d",
   "4gs j b ec q d|7hq q d|7gp q d|7bt q d|7uo q d|2BEH b ec q d|4hq q d|4gp q d|4bt q d|4uo q d",
   "2TEH b ec q d|4hq q d|4gp q d|4bt q d|4uo q d|2yy b bt q d|2ec b hq q d|4bt q d|2hq b ec q d",
   "4bt q d|2gp b ec q d|4bt q d|2lu b ec q d|4hq q d|4gp q d|4bt q d|2yz b hq q d|4gp q d|4bt q d",
   "2DAD b ec q d|4hq q d|4gp q d|4bt q d|2vi b hq q d|2ZAH b bt q d|2te b ec q d|4bt q d",
   "2mx b ec q d|4bt q d|2yw b ec q d|4hq q d|4gp q d|4bt q d|2wj b hq q d|4bt q d|2ui b ec q d",
   "4hq q d|4gp q d|4qv q d|4bt q d|2qv b ec q d|4hq q d|4gp q d|4bt q d|4uo q d|2bt b ec q d",
   "4hq q d|4gp q d|4bt q d|2iw b ec q d|4hq q d|4gp q d|4bt q d|4uo q d|2uo b ec q d|4bt q d",
   "4gk cx q d|2ga b ec q d|4hq q d|4gp q d|4bt q d|4uo q d|4gs j b bt bd d|7uo bd d",
   "2BEH b bt bd d|4uo bd d|2TEH b bt bd d|4uo bd d|2yy b bt bd d|4uo bd d|2lu b bt bd d|4uo bd d",
   "2lo b bt bd d|4uo bd d|2ui b qv bd d|4bt bd d|2qv b bt bd d|2iw b bt bd d|4uo bd d",
   "2ga b bt bd d|4uo bd d|2SHADDA b sg bd d|4vj bd d|4qw bd d|2vi b cx bg h d|4ga h d",
   "2te b cx bg h d|4ga h d|2mx b cx bg h d|4ga h d|2lu b cx bg h d|4ga h d|2lo b cx bg h d",
   "4ga h d|2hq b cx bg h d|4ga h d|2ec b cx bg h d|4ga h d|2gp b cx bg h d|4ga h d",
   "2yz b cx bg h d|4ga h d|2DAD b cx bg h d|4ga h d|2lo b ec h d|4hq h d|4gp h d|4bt h d|4tc h d",
   "2lu b tc h d|2yz b tc h d|2DAD b tc h d|2vi b cx bg m d|4ga m d|2te b cx bg m d|4ga m d",
   "2mx b cx bg m d|4ga m d|2lu b cx bg m d|4ga m d|2lo b cx bg m d|4ga m d|2hq b cx bg m d",
   "4ga m d|2ec b cx bg m d|4ga m d|2gp b cx bg m d|4ga m d|2yz b cx bg m d|4ga m d",
   "2DAD b cx bg m d|4ga m d|2lo b ec m d|4hq m d|4gp m d|4bt m d|4tc m d|2lu b tc m d",
   "2yz b tc m d|2DAD b tc m d|2lo b ec q d|4hq q d|4gp q d|4bt q d|2lu b uo q d|2lo b uo q d",
   "2vi b bt q d|2lu b ec bd d|4hq bd d|4gp bd d|2lo b ec bd d|4hq bd d|4gp bd d|2vi b bt bd d",
   "2ZAH b bt bd d|2cx b tf m d|5h d|0ORNATE n bb|1g bb|0je ed RAHIMAHU ALLAAH|2RADI ALLAAHU ANH",
   "4ANHAA|4ANHUM|4ANHUMAA|4ANHUNNA|2SALLALLAAHU ALAYHI WA-AALIH|2ALAYHI AS-SALAAM",
   "2ALAYHIM AS-SALAAM|2ALAYHIMAA AS-SALAAM|2ALAYHI AS-SALAATU WAS-SALAAM|2QUDDISA SIRRAH",
   "2SALLALLAHU ALAYHI WAAALIHEE WA-SALLAM|2ALAYHAA AS-SALAAM|2TABAARAKA WA-TAAALAA",
   "2RAHIMAHUM ALLAAH|2TEH b ec b bt q d|4hq b ec m d|7q d|6bt q d|4gp b bt q d|4bt b ec q d",
   "6hq q d|6gp q d|2ec b bt b hq m d|7q d|2hq b bt b ga m d|6cx bg m d|2lu b hq b ec q d",
   "4ec b hq q d|6cx bg m d|4bt b hq m d|7q d|6ec q d|6bt m d|7q d|2yz b hq b hq m d|7q d",
   "4bt b bt m d|2lo b hq b bt m d|7q d|4ec b ga m d|4bt b gp m d|7q d|6bt m d|7q d",
   "2DAD b hq b cx bg m d|4gp b bt m d|7q d|2vi b bt b hq m d|7q d|6bt q d|6ga m d",
   "2te b ec b bt m d|4bt b bt m d|7q d|6cx bg m d|2mx b bt b bt m d|6ga m d|6cx bg m d",
   "2yw b gp b bt m d|7q d|2wj b bt b hq m d|6bt m d|2qv b hq b bt m d|6ga m d|6cx bg m d",
   "4ec b ec q d|7m d|4gp b bt m d|7q d|4bt b hq m d|7q d|2bt b hq b ec q d|6bt q d|6ga m d",
   "4ec b hq q d|6bt q d|4gp b ec q d|6bt q d|@FD92 4ec b gp q d|2uo b bt b ec q d|6bt q d",
   "2iw b hq b bt q d|6cx bg m d|4ec b bt m d|7q d|6cx bg m d|4bt b ga m d|6cx bg m d",
   "2ga b bt b bt m d|7q d|2BEH b gp b ga m d|2TEH b ec b ga m d|6cx bg m d|4gp b ga m d",
   "6cx bg m d|4bt b ga m d|6cx bg m d|2ec b bt b ga m d|4hq b cx bg m d|4bt b cx bg m d",
   "2lu b gp b cx bg m d|2yz b hq b ga m d|2lo b hq b ga m d|2DAD b hq b ga m d|2qv b ec b ga m d",
   "4bt b ga m d|2ga b hq b ga m d|4ec b ga m d|4bt b ga m d|2bt b bt b ga m d|2wj b bt b ga m d",
   "2iw b hq b ga m d|2wj b bt b hq q d|2qv b hq b bt q d|2te b bt b ga m d|2ui b bt b ga m d",
   "2iw b ec b hq q d|2bt b gp b ga m d|2qv b ec b bt q d|2ui b bt b bt m d|2qv b ec b bt m d",
   "2iw b ec b hq m d|2ec b hq b ga m d|2hq b ec b ga m d|2bt b ec b ga m d|2yw b bt b ga m d",
   "2BEH b hq b ga m d|2ui b bt b bt q d|2te b ec b bt q d|2yz b bt b bt q d|2lu b gp b ga m d",
   "2iw b ec b ga m d|@FDCF 2SALAAMUHU ALAYNAA|@FDF0 2SALLA USED AS KORANIC ex f h d",
   "2QALA USED AS KORANIC ex f h d|2ALLAH h d|2AKBAR h d|2MOHAMMAD h d|2SALAM h d|2RASOUL h d",
   "2ALAYHE h d|2WASALLAM h d|2SALLA h d|2SALLALLAHOU ALAYHE WASALLAM|2JALLAJALALOUHOU|0RIAL f",
   "0je ed BISMILLAH AR-RAHMAN AR-RAHEEM|2SUBHAANAHU WA TAAALAA|2AZZA WA JALL|0uv SELECTOR-1|+15",
   "0ty d qk p du|4fq du|5gy ex|4hl|4iu|4cv z|4dy z|4n y jy ae|4g y jy BRAKCET|4x pb",
   "@FE20 0cg ed n cc|2g cc|1l cl n cc|3g cc|1ee n cc|2g cc|1CONJOINING ee|1ed n cc v|2g cc v",
   "1cl n cc v|2g cc v|1ee n cc v|2g cc v|1CONJOINING ee v|1iq TITLO n cc|3g cc",
   "0ty d qk p bk cq LEADER|4EM ig|4EN ig|4hj fn|4WAVY hj fn|4n bb|4g bb|4n ix ae|4g ix ae",
   "4n gz jo ae|4g gz jo ae|4n w jy ae|4g w jy ae|4n l el ae|4g l el ae|4n el ae|4g el ae|4n fv ae",
   "4g fv ae|4n y fv ae|4g y fv ae|0SESAME cq|0y SESAME cq|0ty d qk p n al ae|4g al ae|0ne ox",
   "0CENTRELINE ox|0WAVY ox|0l WAVY ox|0ne hj fn|0CENTRELINE hj fn|0WAVY hj fn|0k du|1fq du|1gy ex",
   "@FE54 1iu|1hl|1dy z|1cv z|1EM ig|1n bb|1g bb|1n ix ae|1g ix ae|1n gz jo ae|1g gz jo ae|1ck f",
   "1mn|1cd|1bw f|1sy|1at f|1ai f|1fg f|@FE68 1gr gd|1ws f|1PERCENT f|1so AT|@FE70 0je tf h d",
   "1TATWEEL b tf j|1xb h d|1he FRAGMENT|1xc h d|@FE76 1sg h d|2bd d|1vj h d|2bd d|1qw h d|2bd d",
   "1SHADDA h d|2bd d|1SUKUN h d|2bd d|1a gs h d|2cx b xa j h d|6m d|4gs j h d|6m d|2qm b gs j h d",
   "6m d|2cx b gs v h d|6m d|2ga b gs j h d|6m d|6q d|6bd d|2cx h d|3m d|2BEH h d|3m d|3q d|3bd d",
   "2TEH MARBUTA h d|4m d|3h d|3m d|3q d|3bd d|2yy h d|3m d|3q d|3bd d|2ec h d|3m d|3q d|3bd d",
   "2hq h d|3m d|3q d|3bd d|2gp h d|3m d|3q d|3bd d|2DAL h d|3m d|2THAL h d|3m d|2tc h d|3m d",
   "2un h d|3m d|2lu h d|3m d|3q d|3bd d|2lo h d|3m d|3q d|3bd d|2yz h d|3m d|3q d|3bd d|2DAD h d",
   "3m d|3q d|3bd d|2vi h d|3m d|3q d|3bd d|2ZAH h d|3m d|3q d|3bd d|2te h d|3m d|3q d|3bd d",
   "2mx h d|3m d|3q d|3bd d|2yw h d|3m d|3q d|3bd d|2wj h d|3m d|3q d|3bd d|2ui h d|3m d|3q d",
   "3bd d|2qv h d|3m d|3q d|3bd d|2bt h d|3m d|3q d|3bd d|2iw h d|3m d|3q d|3bd d|2uo h d|3m d",
   "3q d|3bd d|2qm h d|3m d|2cx bg h d|4m d|2ga h d|3m d|3q d|3bd d|1ed qv b cx b xa j h d|8m d",
   "6gs j h d|8m d|7v h d|8m d|5h d|5m d|@FEFF 0do WIDTH NO-BREAK kc|@FF01 0FULLWIDTH cv z|1dc z",
   "1ck f|1ws f|1PERCENT f|1mn|1jw|1n bb|1g bb|1cd|1bw f|1du|1sy|1gy ex|1gd|1br do|2bq|2bk|2r|2aq",
   "2aw|2eq|2ar|2ao|2cf|1hl|1iu|1at f|1fg f|1ai f|1dy z|1so AT|1ek c a A|=25|1n al ae|1gr gd",
   "1g al ae|1au eu|1hj fn|1er eu|1ek k a A|=25|1n ix ae|1p fn|1g ix ae|1cl|1n y bb|1g y bb",
   "0HALFWIDTH fq gy ex|1n fv ae|1g fv ae|1fq du|1kw af cq|2a WO|3k A|4I|4U|4E|4O|4YA|4YU|4YO|4TU",
   "1kv PROLONGED nd z|1kw a A|3I|3U|3E|3O|3KA|3KI|3KU|3KE|3KO|3SA|3SI|3SU|3SE|3SO|3TA|3TI|3TU|3TE",
   "3TO|3NA|3NI|3NU|3NE|3NO|3HA|3HI|3HU|3HE|3HO|3MA|3MI|3MU|3ME|3MO|3YA|3YU|3YO|3RA|3RI|3RU|3RE",
   "3RO|3WA|3N|2qq nd z|2SEMI-VOICED nd z|1qy ss|2a ut|3vm|3KIYEOK-SIOS|3zx|3vp|3vq|3uu|3vn|3zy",
   "3tn|3vr|3vs|3xp|3ze|3zf|3vo|3zz|3PIEUP|3xk|3xo|3SIOS|3SSANGSIOS|3xl|3xm|3xn|3rs|3rt|3ru|3rv",
   "3HIEUH|@FFC2 3A|3AE|3YA|3YAE|3EO|3E|@FFCA 3YEO|3YE|3O|3WA|3WAE|3OE|@FFD2 3YO|3U|3WEO|3WE|3WI",
   "3YU|@FFDA 3EU|3YI|3I|@FFE0 0FULLWIDTH CENT f|1POUND f|1kz f|1ee|1BROKEN fb|1YEN f|1WON f",
   "@FFE8 0HALFWIDTH FORMS bn p|1o e|1an e|1i e|1aa e|1w al|1y am",
   "@FFF9 0INTERLINEAR ANNOTATION ANCHOR|2cy|2TERMINATOR|0OBJECT REPLACEMENT gt|0REPLACEMENT gt"]

end CodeLint.Text
