/-!
Names of characters: the scripts in the first blocks.
The entries are explained where the names are looked up.
-/

namespace CodeLint.Text

set_option maxRecDepth 20000

def scriptNames : List String :=
  ["@20 0kc|0cv z|0dc z|0ck f|0ws f|0PERCENT f|0mn|0jw|0n bb|0g bb|0cd|0bw f|0du|0sy|0gy ex|0gd",
   "0br do|1bq|1bk|1r|1aq|1aw|1eq|1ar|1ao|1cf|0hl|0iu|0at f|0fg f|0ai f|0dy z|0so AT|0ek c a A|=25",
   "0n al ae|0gr gd|0g al ae|0au eu|0hj fn|0er eu|0ek k a A|=25|0n ix ae|0p fn|0g ix ae|0cl",
   "@A0 0NO-BREAK kc|0bf cv z|0CENT f|0POUND f|0wt f|0YEN f|0BROKEN fb|0ge f|0bc|0COPYRIGHT f",
   "0FEMININE ORDINAL mo|0da l el dc z|0kz f|0SOFT og|0REGISTERED f|0ee|0DEGREE f|0PLUS-MINUS f",
   "0gk bk|1r|0dk eu|0MICRO f|0PILCROW f|0af cq|0ik|0gk bq|0MASCULINE ORDINAL mo|0ca l el dc z",
   "0VULGAR gl bq ef|3cc|2r ia|0bf dy z|0ek c a A b er|5dk|5au|5cl|5bc|5de j|3AE|3C b ik|3E b er",
   "5dk|5au|5bc|3I b er|5dk|5au|5bc|3ETH|3N b cl|3O b er|5dk|5au|5cl|5bc|0fy f|0ek c a O b ad",
   "3U b er|5dk|5au|5bc|3Y b dk|3THORN|1k a SHARP S|3A b er|5dk|5au|5cl|5bc|5de j|3AE|3C b ik",
   "3E b er|5dk|5au|5bc|3I b er|5dk|5au|5bc|3ETH|3N b cl|3O b er|5dk|5au|5cl|5bc|0ou f",
   "0ek k a O b ad|3U b er|5dk|5au|5bc|3Y b dk|3THORN|3Y b bc|1c a A b ee|-|1c a A b hd|-",
   "1c a A b sp|-|1c a C b dk|-|1c a C b au|-|1c a C b cq j|-|1c a C b iy|-|1c a D b iy|-",
   "1c a D b ad|-|1c a E b ee|-|1c a E b hd|-|1c a E b cq j|-|1c a E b sp|-|1c a E b iy|-",
   "1c a G b au|-|1c a G b hd|-|1c a G b cq j|-|1c a G b ik|-|1c a H b au|-|1c a H b ad|-",
   "1c a I b cl|-|1c a I b ee|-|1c a I b hd|-|1c a I b sp|-|1c a I b cq j|1k a ju I|1c ed IJ|-",
   "1c a J b au|-|1c a K b ik|-|3KRA|1c a L b dk|-|1c a L b ik|-|1c a L b iy|-|1c a L b af cq|-",
   "1c a L b ad|-|1c a N b dk|-|1c a N b ik|-|1c a N b iy|-|4PRECEDED BY jw|1c a ENG|-|1c a O b ee",
   "-|1c a O b hd|-|1c a O b l dk|-|1c ed OE|-|1c a R b dk|-|1c a R b ik|-|1c a R b iy|-",
   "1c a S b dk|-|1c a S b au|-|1c a S b ik|-|1c a S b iy|-|1c a T b ik|-|1c a T b iy|-",
   "1c a T b ad|-|1c a U b cl|-|1c a U b ee|-|1c a U b hd|-|1c a U b de j|-|1c a U b l dk|-",
   "1c a U b sp|-|1c a W b au|-|1c a Y b au|-|1c a Y b bc|3Z b dk|-|1c a Z b cq j|-|1c a Z b iy|-",
   "3eg S|3B b ad|1c a B b be|5TOPBAR|-|1c a em eq|-|1c a ea O|3C b be|-|1c a AFRICAN D|3D b be",
   "5TOPBAR|-|3bl ld|1c a as E|3zo|3ea E|3F b be|-|1c a G b be|3kh|1k a HV|1c a la|3I b ad|3K b be",
   "-|3L b fb|3LAMBDA b ad|1c a bl M|3N b n be|1k a N b eg g LEG|1c a O b af cl|5ov|-|1c a OI|-",
   "1c a P b be|-|1a YR|1c a em bk|-|1c a ESH|1a as ESH sz|1k a T b fd be|1c a T b be|-",
   "1c a T b by be|3U b ov|-|1c a fi|3V b be|3Y b be|-|1c a Z b ad|-|1c a EZH|4as|-|4b he",
   "1a bk b ad|1c a em aw|-|1a bf gf ex b ad|2WYNN|2DENTAL ta|2LATERAL ta|2ALVEOLAR ta|2by ta",
   "1c a DZ b iy|3D b k a Z b iy|1k a DZ b iy|1c a LJ|3L b k a J|1k a LJ|1c a NJ|3N b k a J",
   "1k a NJ|1c a A b iy|-|1c a I b iy|-|1c a O b iy|-|1c a U b iy|-|1c a U b bc s ee|-",
   "1c a U b bc s dk|-|1c a U b bc s iy|-|1c a U b bc s er|-|3bl E|1c a A b bc s ee|-",
   "1c a A b cq j s ee|-|1c a AE b ee|-|1c a G b ad|-|1c a G b iy|-|1c a K b iy|-|1c a O b sp|-",
   "1c a O b sp s ee|-|1c a EZH b iy|-|3J b iy|1c a DZ|3D b k a Z|1k a DZ|1c a G b dk|-|1c a HWAIR",
   "3WYNN|3N b er|-|1c a A b de j s dk|-|1c a AE b dk|-|1c a O b ad s dk|-|1c a A b l er|-",
   "1c a A b bf hd|-|1c a E b l er|-|1c a E b bf hd|-|1c a I b l er|-|1c a I b bf hd|-",
   "1c a O b l er|-|1c a O b bf hd|-|1c a R b l er|-|1c a R b bf hd|-|1c a U b l er|-",
   "1c a U b bf hd|-|1c a S b du v|-|1c a T b du v|-|1c a YOGH|-|1c a H b iy|-|1c a N b eg g LEG",
   "1k a D b ow|1c a OU|-|1c a Z b be|-|1c a A b cq j|-|1c a E b ik|-|1c a O b bc s ee|-",
   "1c a O b cl s ee|-|1c a O b cq j|-|1c a O b cq j s ee|-|1c a Y b ee|-|3L b ow|3N b ow|3T b ow",
   "3ju J|3DB fj|3QP fj|1c a A b ad|3C b ad|-|1c a L b fb|3T b co ad|1k a S b SWASH he",
   "3Z b SWASH he|1c a gf ex|-|1c a B b ad|3U fb|3bl V|3E b ad|-|1c a J b ad|-|1c a k Q b be he",
   "1k a Q b be he|1c a R b ad|-|1c a Y b ad|-|3bl A|3hf|3bl hf|3B b be|3ea O|3C b ow|3D b he|5be",
   "3as E|3zo|4b be|3ea E|3as ea E|6b be|3fs as ea E|3ju J b ad|3G b be|3hn G|1a k c G|1k a kh",
   "3RAMS ov|3bl H|3H b be|3HENG b be|3I b ad|3la|1a k c I|1k a L b af cl|5BELT|5by be|3LEZH|3bl M",
   "5b eg LEG|3M b be|3N b n be|5by be|1a k c N|1k a uk O|1a k c OE|1k a fs hg|3wu|3bl R|5b eg LEG",
   "6be|3R b eg LEG|5he|5qp|3as R b qp|1a k c R|4bf R|1k a S b be|3ESH|3ju J b ad s be",
   "3SQUAT as ESH|3ESH b ow|3bl T|3T b by be|3U fb|3fi|3V b be|3bl V|=|4Y|1a k c Y|1k a Z b by be",
   "5ow|3EZH|4b ow|1a gf ex|2PHARYNGEAL qq FRICATIVE|2bf gf ex|2STRETCHED C|2BILABIAL ta|2k c B",
   "1k a fs ea E|1a k c G b be|4H|1k a J b il|3bl K|1a k c L|1k a Q b be|1a gf ex b ad",
   "2as gf ex b ad|1k a DZ fj|3DEZH fj|3DZ fj b ow|3TS fj|3TESH fj|3TC fj b ow|3FENG fj|3LS fj",
   "3LZ fj|1a BILABIAL PERCUSSIVE|2BIDENTAL PERCUSSIVE|1k a bl H b qp|7s he|0dt a k H|4b be|3J|3R",
   "3bl R|5b be|3c bf R|3W|3Y|2sf|2l sf|2bl du|2jw|2as du|2g cc de|2n cc de|2gf ex|2as gf ex|2n ak",
   "2g ak|2UP ak|2bz ak|2au eu|0iy|0dt a p fn|2ee|2dk eu|2er eu|2hj p fn|3ee|3er eu|3dk eu|2dz hl",
   "2cc dz hl|2ro g cc de|3n cc de|2UP jr|2bz jr|2bw f|2ly f|0hd|0cq j|0de j|0sp|0k cl|0l dk eu",
   "0dt a RHOTIC be|2fk eu|2k kh|3L|3S|3X|3as gf ex|2wv em fb|2es em fb|2MID em fb|2hj em fb",
   "2zp em fb|2YIN DEPARTING em z|2yv DEPARTING em z|2VOICING|2UNASPIRATED|2l jw|2hj bz ak|3UP ak",
   "3n ak|3g ak|3de|2af er eu|3l er eu|4dk eu|2hj cl|2ha hl|2zq es em|2qr es em|2zq hj em",
   "2qr hj em|2SHELF|2ea SHELF|2hj n e|0cg er eu|1dk eu|1au eu|1cl|1ee|1ox|1hd|1cq j|1bc|1be j",
   "1de j|1l dk eu|1iy|1p fn j|1l p fn j|2er eu|1ce|1bf hd|1bl du j|1du j|1as du j|1du j g",
   "1er eu v|1dk eu v|1n jr v|1g jr v|1n el j|1ov|1n cc de v|1UP jr v|1bz jr v|1bw f v|1ly f v",
   "1PALATALIZED be v|1by be v|1cq v|1bc v|1de v|1du v|1ik|1sp|1p fn v|1BRIDGE v|1bf l ARCH v",
   "1iy v|1au eu v|1hd v|1bf hd v|1cl v|1ee v|1hj fn|1l hj fn|1cl hk|1ey ad hk|1eg ad hk|1ey gd hk",
   "1eg gd hk|1g cc de v|1bf BRIDGE v|1al v|1SEAGULL v|1X j|1p cl|1l ox|1er em z|1dk em z|1jc ax",
   "2KORONIS|2ho lm|2av|1BRIDGE j|1fg f v|1l p fn v|1n el v|1kz cl j|1HOMOTHETIC j|1ki bj TO j",
   "1n g e v|1an e v|1GRAPHEME ww|1g ak j|1n cc de j|1FERMATA|1X v|1n ak v|1g ak v|3s UP ak v",
   "2cc de j|1cq j g|1cd v|1l de v|1ul j|1l hd v|3|2ee|3v|2cl|2bf hd|2i e v|1ek k a A|4E|4I|4O|4U",
   "4C|=|4H|4M|4R|4T|4V|4X|0jc c a HETA|-|1c a hx SAMPI|-|1nq f|1bs nq f|1c a PAMPHYLIAN DIGAMMA|-",
   "@37A 1av|1k as qs iz u|2ev qs iz u|2as ev qs iz u|1dy z|1c a YOT|@384 1lm|1ho lm|1c a hf b lm",
   "1ANO TELEIA|1c a fr b lm|3ETA b lm|3la b lm|@38C 3hy b lm|@38E 3fi b lm|3hg b lm",
   "1k a la b ho s lm|1c a hf|3sb|3kh|3ld|3fr|3wx|3ETA|3jd|3la|3lz|3qg|3MU|3NU|3XI|3hy|3PI|3wc",
   "@3A3 3iz|3TAU|3fi|3wu|3yu|3PSI|3hg|3la b ho|3fi b ho|1k a hf b lm|3fr b lm|3ETA b lm|3la b lm",
   "3fi b ho s lm|3hf|3sb|3kh|3ld|3fr|3wx|3ETA|3jd|3la|3lz|3qg|3MU|3NU|3XI|3hy|3PI|3wc|3m iz|3iz",
   "3TAU|3fi|3wu|3yu|3PSI|3hg|3la b ho|3fi b ho|3hy b lm|3fi b lm|3hg b lm|1c KAI u|1sb u|1jd u",
   "1fi b be u|3dk s be u|3bc s be u|1wu u|1PI u|1KAI u|1a hx KOPPA|1k a hx KOPPA|1a STIGMA",
   "1k a STIGMA|1a DIGAMMA|1k a DIGAMMA|1a KOPPA|1k a KOPPA|1a SAMPI|1k a SAMPI|0lt c a SHEI|-",
   "1c a FEI|-|1c a KHEI|-|1c a HORI|-|1c a GANGIA|-|1c a SHIMA|-|1c a DEI|-|0jc lz u|1wc u",
   "1qs iz u|1a YOT|1c jd u|1qs fr u|1as qs fr u|1c a SHO|-|1c qs iz u|2a SAN|-|1wc b ad u",
   "1c as qs iz u|2ev qs iz u|2as ev qs iz u|0iq c a IE b er|3IO|3DJE|3GJE|3UKRAINIAN IE|3DZE",
   "3BYELORUSSIAN-UKRAINIAN I|3YI|3JE|3LJE|3NJE|3TSHE|3KJE|3I b er|3ey U|3DZHE|3A|3BE|3VE|3GHE|3DE",
   "3IE|3ZHE|3ZE|3I|3ey I|3KA|3EL|=2|3O|3PE|3ER|=|3TE|3U|3EF|3HA|3TSE|3CHE|3jb|3SHCHA|3HARD f",
   "3YERU|3SOFT f|3E|3YU|3YA|1k a A|3BE|3VE|3GHE|3DE|3IE|3ZHE|3ZE|3I|3ey I|3KA|3EL|=2|3O|3PE|3ER|=",
   "3TE|3U|3EF|3HA|3TSE|3CHE|3jb|3SHCHA|3HARD f|3YERU|3SOFT f|3E|3YU|3YA|3IE b er|3IO|3DJE|3GJE",
   "3UKRAINIAN IE|3DZE|3BYELORUSSIAN-UKRAINIAN I|3YI|3JE|3LJE|3NJE|3TSHE|3KJE|3I b er|3ey U|3DZHE",
   "1c a hg|-|1c a YAT|-|1c a ln E|-|1c a dd zr|-|1c a ln dd zr|-|1c a BIG zr|-|1c a ln BIG zr|-",
   "1c a KSI|-|1c a PSI|-|1c a FITA|-|1c a IZHITSA|-|1c a IZHITSA b l er eu|-|1c a UK|-|1c a tb hg",
   "-|1c a hg b TITLO|-|1c a OT|-|1c a KOPPA|-|1mp f|0cg iq TITLO|2PALATALIZATION|2ct PNEUMATA",
   "2cu PNEUMATA|2POKRYTIE|2ab mp f|2qt f|0iq c a ey I b he|-|1c a SEMISOFT f|-|1c a ER b TICK|-",
   "1c a GHE b UPTURN|-|1c a GHE b ad|-|1c a GHE b af be|-|1c a ZHE b fm|-|1c a ZE b fm|-",
   "1c a KA b fm|-|1c a KA b p ad|-|1c a KA b ad|-|1c a BASHKIR KA|-|1c a EN b fm|-|1c ed EN GHE|-",
   "1c a PE b af be|-|1c a zs HA|-|1c a ES b fm|-|1c a TE b fm|-|1c a fo U|-|1c a fo U b ad|-",
   "1c a HA b fm|-|1c ed TE TSE|-|1c a CHE b fm|-|1c a CHE b p ad|-|1c a SHHA|-|1c a zs CHE|-",
   "1c a zs CHE b fm|-|1a PALOCHKA|1c a ZHE b hd|-|1c a KA b be|-|1c a EL b he|-|1c a EN b be|-",
   "1c a EN b he|-|1c a KHAKASSIAN CHE|-|1c a EM b he|-|3PALOCHKA|1c a A b hd|-|1c a A b bc|-",
   "1c ed A IE|-|1c a IE b hd|-|1c a zo|-|1c a zo b bc|-|1c a ZHE b bc|-|1c a ZE b bc|-",
   "1c a zs DZE|-|1c a I b ee|-|1c a I b bc|-|1c a O b bc|-|1c a uk O|-|1c a uk O b bc|-",
   "1c a E b bc|-|1c a U b ee|-|1c a U b bc|-|1c a U b l dk|-|1c a CHE b bc|-|1c a GHE b fm|-",
   "1c a YERU b bc|-|1c a GHE b ad s be|-|1c a HA b be|-|1c a HA b ad|-|1c a KOMI DE|-",
   "1c a KOMI DJE|-|1c a KOMI ZJE|-|1c a KOMI DZJE|-|1c a KOMI LJE|-|1c a KOMI NJE|-|1c a KOMI SJE",
   "-|1c a KOMI TJE|-|1c a as ZE|-|1c a EL b be|-|1c a LHA|-|1c a RHA|-|1c a YAE|-|1c a QA|-",
   "1c a WE|-|1c a ALEUT KA|-|1c a EL b af be|-|1c a EN b af be|-|1c a PE b fm|-|1c a SHHA b fm|-",
   "1c a EN b n be|-|1c a DZZHE|-|1c a DCHE|-|1c a EL b fm|-|@531 0wy c a AYB|3BEN|3GIM|3DA|3ECH",
   "3ZA|3EH|3ET|3TO|3ZHE|3INI|3LIWN|3XEH|3CA|3KEN|3HO|3JA|3GHAD|3CHEH|3MEN|3YI|3NOW|3jb|3VO|3js",
   "3PEH|3JHEH|3RA|3SEH|3VEW|3TIWN|3tc|3CO|3YIWN|3PIWR|3KEH|3OH|3yw|@559 1dt a n cc de|1jw",
   "1EMPHASIS z|1cv z|1du|1dy z|1dv z|1k a bl AYB|3AYB|3BEN|3GIM|3DA|3ECH|3ZA|3EH|3ET|3TO|3ZHE",
   "3INI|3LIWN|3XEH|3CA|3KEN|3HO|3JA|3GHAD|3CHEH|3MEN|3YI|3NOW|3jb|3VO|3js|3PEH|3JHEH|3RA|3SEH",
   "3VEW|3TIWN|3tc|3CO|3YIWN|3PIWR|3KEH|3OH|3yw|2ed ECH YIWN|2a YI b ad|1gy ex|1og",
   "@58D 0td wy ETERNITY f|0vh wy ETERNITY f|0wy DRAM f|@591 0HEBREW eu ETNAHTA|2SEGOL|2SHALSHELET",
   "2ZAQEF QATAN|3GADOL|2TIPEHA|2REVIA|2ZARQA|2PASHTA|2YETIV|2TEVIR|2GERESH|3MUQDAM|2GERSHAYIM",
   "2QARNEY PARA|2TELISHA GEDOLA|2PAZER|2ATNAH HAFUKH|2MUNAH|2MAHAPAKH|2MERKHA|3KEFULA|2DARGA",
   "2QADMA|2TELISHA QETANA|2YERAH BEN YOMO|2OLE|2ILUY|2DEHI|2ZINOR|1z MASORA am|1qu SHEVA",
   "2HATAF SEGOL|3PATAH|3QAMATS|2HIRIQ|2TSERE|2SEGOL|2PATAH|2QAMATS|2HOLAM|3HASER qk VAV|2QUBUTS",
   "2ht OR MAPIQ|2METEG|1az MAQAF|1qu RAFE|1az PASEQ|1qu lb cq|2SIN cq|1az SOF PASUQ|1z cm cq",
   "2bs cq|1az np HAFUKHA|1qu QAMATS QATAN|@5D0 1a cx|2BET|2nr|2DALET|2HE|2VAV|2qh|2HET|2TET|2YOD",
   "2m ui|2ui|2LAMED|2m MEM|2MEM|2m np|2np|2kj|2yx|2m PE|2PE|2m TSADI|2TSADI|2QOF|2wz|2lb|2TAV",
   "@5EF 1YOD ah|1ed YIDDISH l VAV|3VAV YOD|3l YOD|1az GERESH|2GERSHAYIM|@600 0je ck f|1f SANAH",
   "1FOOTNOTE um|1f SAFHA|2SAMVAT|1ck z j|0hp CUBE ROOT|1FOURTH ROOT|0je RAY|0hp PER MILLE f",
   "2ii ac f|0AFGHANI f|0je du|1DATE cy|1POETIC VERSE f|1f MISRA|2SALLALLAHOU ALAYHE WASSALLAM",
   "2ALAYHE ASSALLAM|2RAHMATULLAH ALAYHE|2RADI ALLAHOU ANHU|2TAKHALLUS|1k es vi|3ed cx b qv b ga",
   "3un|2sg|2vj|2qw|1iu|1a z|1qr OF TEXT z|1dm cq az z|1dy z|1a KASHMIRI ga|2gs|2cx b xa j|4gs j",
   "2qm b gs j|2cx b gs v|2ga b gs j|2cx|2BEH|2TEH MARBUTA|3|2yy|2ec|2hq|2gp|2DAL|2THAL|2tc|2un",
   "2lu|2lo|2yz|2DAD|2vi|2ZAH|2te|2mx|2KEHEH b bk cr j|4r cr v|2FARSI ga b bf V|5bk cr j|5r cr j",
   "1TATWEEL|1a yw|2wj|2ui|2qv|2bt|2iw|2uo|2qm|2cx bg|2ga|1tf|1xb|1xc|1sg|1vj|1qw|1SHADDA|1SUKUN",
   "1MADDAH j|1gs j|2v|1oy cx|1bf vj|1z iw GHUNNA|1ZWARAKAY|1bm f k V j|3bf k V j|3cq v|1as vj",
   "1sg b bk cr|1WAVY gs v|0hp br do|2bq|2bk|2r|2aq|2aw|2eq|2ar|2ao|2cf|0je PERCENT f|1DECIMAL cy",
   "1mp cy|1aw dw gc|1a ju BEH|3wj|2gk cx|2cx WASLA|3b WAVY gs j|6v|2es gs|4cx|4qm|2U b gs j",
   "2es gs ga|2TTEH|2TTEHEH|2BEEH|2TEH b de|4r cr j aa|2PEH|2TEHEH|2BEHEH|2hq b gs j|4bk cr p j",
   "2NYEH|2DYEH|2hq b r cr j|2TCHEH|2TCHEHEH|2DDAL|2DAL b de|4cq v|6s k vi|2DAHAL|2DDAHAL|2DUL",
   "2DAL b r cr j aa|4aq cr j|2RREH|2tc b k V|4de|4cq v|4k V v|4cq v s cq j|4bk cr j|2JEH",
   "2tc b aq cr j|2lu b cq v s cq j|4r cr v|7s r cr j|2yz b bk cr v|4r cr j|2vi b r cr j",
   "2te b r cr j|2ju yw|2yw b cq MOVED v|5v|2VEH|2yw b r cr v|2PEHEH|2wj b cq j|4r cr j|2KEHEH",
   "2SWASH ui|2ui b de|4cq j|2NG|2ui b r cr v|2GAF|3b de|2NGOEH|2GAF b bk cr v|2GUEH|2GAF b r cr j",
   "2qv b k V|4cq j|4r cr j|6v|2iw b cq v|3GHUNNA|2RNOON|2iw b de|4r cr j|2uo DOACHASHMEE",
   "2TCHEH b cq j|2uo b ga j|3GOAL|4b gs j|2TEH MARBUTA GOAL|2qm b de|2KIRGHIZ OE|2OE|2U|2YU",
   "2KIRGHIZ YU|2qm b bk cr j|2VE|2FARSI ga|2ga b he|4k V|2qm b cq j|2E|2ga b r cr v|3BARREE",
   "4b gs j|1gy ex|1a AE|1k es ed yz b qv b cx bg|4wj b qv b cx bg|3bt q d|3qv cx|3ec|3r cr|3lu",
   "1qr OF AYAH|1zt OF RUB EL HIZB|1k es ns do|3UPRIGHT RECTANGULAR do|3ju qx OF gp|3bt h d|2hj lu",
   "2es xa|2qm|2ga|2es ga|3iw|1PLACE OF SAJDAH|1EMPTY cw hj ex|3es ex|1ns es ex b FILLED cw",
   "1k hj bt|1a DAL b bf V|2tc b bf V|0oz hp br do|3bq|3bk|3r|3aq|3aw|3eq|3ar|3ao|3cf",
   "0je a lo b cq v|2DAD b cq v|2mx b cq v|1f SINDHI mn|3POSTPOSITION MEN|1a uo b bf V",
   "0SYRIAC qr OF up|1SUPRALINEAR gy ex|1zu gy ex|1SUPRALINEAR hl|1zu hl|1x hl|1hl SKEWED n|3g",
   "1SUPRALINEAR hl SKEWED n|1zu hl SKEWED g|1CONTRACTION|1HARKLEAN OBELUS|2METOBELUS|2ASTERISCUS",
   "@70F 1dv z|1a ALAPH|2gk ALAPH|2sq|2GAMAL|3GARSHUNI|2DALATH|2ju DALATH RISH|2HE|2qm|2un|2uq",
   "2TETH|3GARSHUNI|2YUDH|3HE|2tg|2LAMADH|2MIM|2np|2SEMKATH|2m SEMKATH|2E|2PE|2as PE|2pa|2QAPH",
   "2RISH|2lb|2TAW|2PERSIAN BHETH|3GHAMAL|3DHALATH|1PTHAHA j|2v|2ev|1ZQAPHA j|2v|2ev|1RBASA j|2v",
   "1ev ZLAMA x|3ANGULAR|1HBASA j|2v|1HBASA-ESASA ev|1ESASA j|2v|1RWAHA|1FEMININE cq|1QUSHSHAYA",
   "1RUKKAKHA|1bk p cr j|4v|1r cr j|3v|1nt fn j|3v|1MUSIC|1BARREKH|@74D 1a SOGDIAN ZHAIN|3KHAPH",
   "3FE|0je a BEH b r cr HORIZONTALLY v|4cq v s r cr j|4r cr ay an v|9s bk cr j|4bk cr v s cq j",
   "4bf k V v|4k V|2hq b bk cr j|4r cr ay an v|2DAL b bk cr my v s k vi|4bf k V v|2tc b ad",
   "2lu b aq cr j|2te b bk cr j|4r cr ay aa j|4bk cr my j|2yw b bk cr v|4r cr ay an v",
   "2KEHEH b cq j|4r cr j|6ay an v|2bt b cq j|5v|2iw b bk cr v|4k vi|5V|2qv b fb|2tc b bk cr my j",
   "4gs j|2lu b bk cr my j|2hq b k je a vi v|8s bk cr|2lu b k je a vi s bk cr",
   "2tc b k je a vi s bk cr|2hq b k je a vi j|2cx b oz hp br bk j|7r j|2FARSI ga b oz hp br bk j",
   "8r j|8aq v|2qm b oz hp br bk j|7r j|2ga BARREE b oz hp br bk j|8r j|2hq b oz hp br aq v",
   "2lu b oz hp br aq j|4bf V|2ui b bk cr j|0THAANA a HAA|2SHAVIYANI|2NOONU|2RAA|2BAA|2LHAVIYANI",
   "2KAAFU|2ALIFU|2VAAVU|2MEEMU|2FAAFU|2DHAALU|2THAA|2LAAMU|2GAAFU|2GNAVIYANI|2SEENU|2DAVIYANI",
   "2ZAVIYANI|2TAVIYANI|2YAA|2PAVIYANI|2JAVIYANI|2CHAVIYANI|2TTAA|2HHAA|2KHAA|2THAALU|2ZAA|2SHEENU",
   "2SAADHU|2DAADHU|2TO|2ZO|2AINU|2GHAINU|2QAAFU|2WAAVU|1ABAFILI|1AABAAFILI|1IBIFILI|1EEBEEFILI",
   "1UBUFILI|1OOBOOFILI|1EBEFILI|1EYBEYFILI|1OBOFILI|1OABOAFILI|1SUKUN|1a NAA|@7C0 0NKO br do|2bq",
   "2bk|2r|2aq|2aw|2eq|2ar|2ao|2cf|1a A|2EE|2I|2E|2U|2OO|2O|2DAGBASINNA|2N|2BA|2PA|2TA|2JA|2js|2DA",
   "2RA|2RRA|2SA|2GBA|2FA|2KA|2LA|2NA WOLOSO|2MA|2jv|2NA|2HA|2WA|2YA|2jv WOLOSO|2JONA JA|3js|3RA",
   "1cg ey es em|3hj em|3mz em|2eg DESCENDING em|3es em|3hj em|3mz em|2NASALIZATION z|2l cq j",
   "1es em jw|1hj em jw|1u OO DENNEN|2GBAKURUNEN|1du|1cv z|1LAJANYALAN|@7FD 1DANTAYALAN|1DOROME f",
   "1TAMAN f|0SAMARITAN a ALAF|2BIT|2GAMAN|2DALAT|2IY|2BAA|2ZEN|2IT|2TIT|2YUT|2KAAF|2LABAT|2MIM",
   "2np|2SINGAAT|2IN|2FI|2TSAADIY|2QUF|2RISH|2SHAN|2TAAF|1z IN|2IN-ALAF|2OCCLUSION|2ht",
   "1dt a EPENTHETIC YUT|1z EPENTHETIC YUT|1bm f eg E|3E|3OVERLONG AA|3eg AA|3AA|3OVERLONG A|3eg A",
   "3A|1dt a ey A|1bm f ey A|3eg U|3U|1dt a I|1bm f eg I|3I|3O|3SUKUN|1z NEQUDAA|@830 1az NEQUDAA",
   "2AFSAAQ|2ANGED|2BAU|2ATMAAU|2SHIYYAALAA|1dv z|1az MELODIC QITSA|2ZIQAA|2QITSA|2ZAEF|2TURU",
   "2ARKAANU|2SOF MASHFAAT|2ANNAAU|@840 0MANDAIC a HALQA|2AB|2AG|2AD|2AH|2USHENNA|2AZ|2IT|2ATT",
   "2AKSA|2AK|=3|2AS|2IN|2AP|2ASZ|2AQ|=|2oh|2AT|2DUSHENNA|2KAD|2te|1AFFRICATION z|1VOCALIZATION z",
   "1sr z|@85E 1az|@860 0SYRIAC a MALAYALAM ja|3JA|3jv|3mq|3oi|3NNNA|3ot|3RA|3vk|3LLLA|3pv",
   "@870 0je a cx b th sg|5pu g sg|4g af ad|4n af ad|4th qw|5ft g qw|5tb cq j|5g tb cq|5n tb cq",
   "5tb cq v|4cq j|4th pu g sg s cq j|4g af ad s cq j|4th ft g qw s cq j|5pu g sg s n de",
   "4g af ad s n de|4th ft g qw s n de|5g gs|5n gs|1TATWEEL b OVERSTRUCK gs|4qm|3bk cr v",
   "1a THIN ga|1BASELINE tb cq|1ha tb cq|1a iw b bf k V|2hq b bf k V v|2vi b cq v|4r cr v",
   "2KEHEH b bk cr my v|1p he|@890 1POUND z j|1PIASTRE z j|@898 1k es ur AL-JUZ|2hj ur ISHMAAM",
   "4IMAALA|4TASHEEL|1xa WAAJIB|1gk cx MOKHASSAS|1DOUBLED xa|1cc xa cs xa|1a BEH b k V v|4gs j",
   "2ec b bk cr j|2vi b bk cr j|2yw b cq v s r cr j|2wj b cq v|2qv b l fb|2bt b r cr j",
   "2ga b bk cr v s gs j|8cq j|2tc b sz|2qm b cq xd|2ROHINGYA ga|2hj cx|2DAL b r cr v|2yz b r cr v",
   "2GAF b bf ad|2fo qm|2un b bf V j|2te b r cr v|2ui b cq v|2wj b cq v s NO cr j|2BEH b k bt j",
   "2PEH b k bt j|2TEH b k TEH j|2tc b k iw j|2ga b bk cr v s k iw j|2AFRICAN yw|3wj|3iw",
   "2PEH b k V|2TEH b k V|2TTEH b k V|2TCHEH b k V|2KEHEH b k V|2mx b r cr j|2AFRICAN wj b r cr j",
   "2ec b r cr j|6v|2qv b k je a vi j|2GRAF|1k FARSI ga|2es FARSI ga|3ga BARREE b bk cr v|3ur SAH",
   "3ZAH|1cz tb cq j|4v|1SUKUN v|1cz am v|2tb cq jf am v|1k hj qm|2es ur AR-RUB|3yz|3te|3wj",
   "3iw b qw|2hj iw b qw|2es ur ATH-THALATHA|4AS-SAJDA|4AN-NISF|4SAKTA|4QIF|4WAQFA|3FOOTNOTE um",
   "3f SAFHA|1DISPUTED qr OF AYAH|1bl vj v|1ix sg|2vj|2qw|2tf|2xb|2xc|1em bq cq j|2bk cr j|2sz j",
   "2bq cq v|2bk cr v|2sz v|1ea tf|2xb|2xc|1k es qm|1sg b de|3cq j|1qw b cq v|1n ak j|1g ak j",
   "1n ak v|1g ak v|1l g ak j|5b cq|1g ak j b cq|1vj b cq|1z na iw GHUNNA|0DEVANAGARI f bf ce|2ce",
   "2bu|2ds|1a ey A|2A|2AA|2I|2II|2U|2UU|2bx R|3L|2le E|2ey E|2E|2AI|2le O|2ey O|2O|2AU|2KA|2jx",
   "2GA|2nn|2ja|2CA|2js|2JA|2rp|2jv|2mq|2if|2nb|2ir|2oi|2TA|2kk|2DA|2no|2NA|2NNNA|2PA|2lp|2BA|2ot",
   "2MA|2YA|2RA|2RRA|2LA|2vk|2LLLA|2VA|2jb|2pv|2SA|2HA|1bm f OE|3OOE|1f jg|2hr|1bm f AA|3I|3II|3U",
   "3UU|3bx R|4RR|3le E|3ey E|3E|3AI|3le O|3ey O|3O|3AU|1f eh|1bm f za E|3AW|1OM|1STRESS f UDATTA",
   "3xe|1er eu|1dk eu|1bm f le eg E|3UE|3UUE|1a QA|2KHHA|2GHHA|2ZA|2DDDHA|2RHA|2FA|2YYA|2bx RR|3LL",
   "1bm f bx L|4LL|1hw|1l hw|1br do|2bq|2bk|2r|2aq|2aw|2eq|2ar|2ao|2cf|1dv f|1f es SPACING cq",
   "1a le A|2OE|2OOE|2AW|2UE|2UUE|2MARWARI nb|2zv|2aj YA|2GGA|2JJA|2gf ex|2DDDA|2BBA|0BENGALI ANJI",
   "1f ce|2bu|2ds|@985 1a A|2AA|2I|2II|2U|2UU|2bx R|3L|@98F 2E|2AI|@993 2O|2AU|2KA|2jx|2GA|2nn|2ja",
   "2CA|2js|2JA|2rp|2jv|2mq|2if|2nb|2ir|2oi|2TA|2kk|2DA|2no|2NA|@9AA 2PA|2lp|2BA|2ot|2MA|2YA|2RA",
   "@9B2 2LA|@9B6 2jb|2pv|2SA|2HA|@9BC 1f jg|2hr|1bm f AA|3I|3II|3U|3UU|3bx R|4RR|@9C7 3E|3AI",
   "@9CB 3O|3AU|1f eh|1a KHANDA TA|@9D7 1AU lf z|@9DC 1a RRA|2RHA|@9DF 2YYA|2bx RR|3LL|1bm f bx L",
   "4LL|@9E6 1br do|2bq|2bk|2r|2aq|2aw|2eq|2ar|2ao|2cf|1a RA b af co|4bs co|1RUPEE z|2f",
   "1wt NUMERATOR bq|3bk|3r|3aq|3bq LESS THAN qn DENOMINATOR|2DENOMINATOR nu|1ISSHAR|1GANDA z",
   "1a VEDIC bu|1dv f|1SANDHI z|@A01 0GURMUKHI f ADAK BINDI|2BINDI|2ds|@A05 1a A|2AA|2I|2II|2U|2UU",
   "@A0F 2EE|2AI|@A13 2OO|2AU|2KA|2jx|2GA|2nn|2ja|2CA|2js|2JA|2rp|2jv|2mq|2if|2nb|2ir|2oi|2TA|2kk",
   "2DA|2no|2NA|@A2A 2PA|2lp|2BA|2ot|2MA|2YA|2RA|@A32 2LA|2vk|@A35 2VA|2jb|@A38 2SA|2HA|@A3C 1f jg",
   "@A3E 1bm f AA|3I|3II|3U|3UU|@A47 3EE|3AI|@A4B 3OO|3AU|1f eh|@A51 2UDAAT|@A59 1a KHHA|2GHHA|2ZA",
   "2RRA|@A5E 2FA|@A66 1br do|2bq|2bk|2r|2aq|2aw|2eq|2ar|2ao|2cf|1TIPPI|1ADDAK|1IRI|1URA|1EK ONKAR",
   "1f YAKASH|1dv f|@A81 0GUJARATI f ce|2bu|2ds|@A85 1a A|2AA|2I|2II|2U|2UU|2bx R|3L|1bm le E",
   "@A8F 1a E|2AI|1bm le O|@A93 1a O|2AU|2KA|2jx|2GA|2nn|2ja|2CA|2js|2JA|2rp|2jv|2mq|2if|2nb|2ir",
   "2oi|2TA|2kk|2DA|2no|2NA|@AAA 2PA|2lp|2BA|2ot|2MA|2YA|2RA|@AB2 2LA|2vk|@AB5 2VA|2jb|2pv|2SA|2HA",
   "@ABC 1f jg|2hr|1bm f AA|3I|3II|3U|3UU|3bx R|4RR|3le E|@AC7 3E|3AI|3le O|@ACB 3O|3AU|1f eh",
   "@AD0 1OM|@AE0 1a bx RR|3LL|1bm f bx L|4LL|@AE6 1br do|2bq|2bk|2r|2aq|2aw|2eq|2ar|2ao|2cf|1dv f",
   "1RUPEE f|@AF9 1a zv|1f SUKUN|2SHADDA|2MADDAH|2THREE-DOT jg j|2am jg j|2TWO-CIRCLE jg j",
   "@B01 0ORIYA f ce|2bu|2ds|@B05 1a A|2AA|2I|2II|2U|2UU|2bx R|3L|@B0F 2E|2AI|@B13 2O|2AU|2KA|2jx",
   "2GA|2nn|2ja|2CA|2js|2JA|2rp|2jv|2mq|2if|2nb|2ir|2oi|2TA|2kk|2DA|2no|2NA|@B2A 2PA|2lp|2BA|2ot",
   "2MA|2YA|2RA|@B32 2LA|2vk|@B35 2VA|2jb|2pv|2SA|2HA|@B3C 1f jg|2hr|1bm f AA|3I|3II|3U|3UU|3bx R",
   "4RR|@B47 3E|3AI|@B4B 3O|3AU|1f eh|@B55 2ox|1AI lf z|1AU lf z|@B5C 1a RRA|2RHA|@B5F 2YYA|2bx RR",
   "3LL|1bm f bx L|4LL|@B66 1br do|2bq|2bk|2r|2aq|2aw|2eq|2ar|2ao|2cf|1ISSHAR|1a WA|1gl bq ef|3cc",
   "2r ia|2bq rq|3gw|2r xf|@B82 0TAMIL f bu|2ds|@B85 1a A|2AA|2I|2II|2U|2UU|@B8E 2E|2EE|2AI",
   "@B92 2O|2OO|2AU|2KA|@B99 2ja|2CA|@B9C 2JA|@B9E 2jv|2mq|@BA3 2oi|2TA|@BA8 2NA|2NNNA|2PA",
   "@BAE 2MA|2YA|2RA|2RRA|2LA|2vk|2LLLA|2VA|2jb|2pv|2SA|2HA|@BBE 1bm f AA|3I|3II|3U|3UU|@BC6 3E",
   "3EE|3AI|@BCA 3O|3OO|3AU|1f eh|@BD0 1OM|@BD7 1AU lf z|@BE6 1br do|2bq|2bk|2r|2aq|2aw|2eq|2ar",
   "2ao|2cf|1ck ii|2bq ab|3ac|1DAY f|1MONTH f|1YEAR f|1DEBIT f|1CREDIT f|1AS j f|1RUPEE f|1ck f",
   "@C00 0TELUGU f cg ce j|2ce|2bu|2ds|2cg bu j|1a A|2AA|2I|2II|2U|2UU|2bx R|3L|@C0E 2E|2EE|2AI",
   "@C12 2O|2OO|2AU|2KA|2jx|2GA|2nn|2ja|2CA|2js|2JA|2rp|2jv|2mq|2if|2nb|2ir|2oi|2TA|2kk|2DA|2no",
   "2NA|@C2A 2PA|2lp|2BA|2ot|2MA|2YA|2RA|2RRA|2LA|2vk|2LLLA|2VA|2jb|2pv|2SA|2HA|@C3C 1f jg|2hr",
   "1bm f AA|3I|3II|3U|3UU|3bx R|4RR|@C46 3E|3EE|3AI|@C4A 3O|3OO|3AU|1f eh|@C55 1lf z|1AI lf z",
   "@C58 1a uj|2DZA|2RRRA|@C5D 2NAKAARA POLLU|@C60 2bx RR|3LL|1bm f bx L|4LL|@C66 1br do|2bq|2bk",
   "2r|2aq|2aw|2eq|2ar|2ao|2cf|@C77 1f ti|1gl br do qk ODD xg OF aq|3bq qk ODD xg OF aq",
   "3bk qk ODD xg OF aq|3r qk ODD xg OF aq|3bq qk EVEN xg OF aq|3bk qk EVEN xg OF aq",
   "3r qk EVEN xg OF aq|1f TUUMU|0KANNADA f SPACING ce|2ce|2bu|2ds|2ti|1a A|2AA|2I|2II|2U|2UU",
   "2bx R|3L|@C8E 2E|2EE|2AI|@C92 2O|2OO|2AU|2KA|2jx|2GA|2nn|2ja|2CA|2js|2JA|2rp|2jv|2mq|2if|2nb",
   "2ir|2oi|2TA|2kk|2DA|2no|2NA|@CAA 2PA|2lp|2BA|2ot|2MA|2YA|2RA|2RRA|2LA|2vk|@CB5 2VA|2jb|2pv|2SA",
   "2HA|@CBC 1f jg|2hr|1bm f AA|3I|3II|3U|3UU|3bx R|4RR|@CC6 3E|3EE|3AI|@CCA 3O|3OO|3AU|1f eh",
   "@CD5 1lf z|1AI lf z|@CDD 1a NAKAARA POLLU|2FA|@CE0 2bx RR|3LL|1bm f bx L|4LL|@CE6 1br do|2bq",
   "2bk|2r|2aq|2aw|2eq|2ar|2ao|2cf|@CF1 1f nv|2nw|@D00 0MALAYALAM f cg bu j|2ce|2bu|2ds",
   "1a VEDIC bu|2A|2AA|2I|2II|2U|2UU|2bx R|3L|@D0E 2E|2EE|2AI|@D12 2O|2OO|2AU|2KA|2jx|2GA|2nn|2ja",
   "2CA|2js|2JA|2rp|2jv|2mq|2if|2nb|2ir|2oi|2TA|2kk|2DA|2no|2NA|2NNNA|2PA|2lp|2BA|2ot|2MA|2YA|2RA",
   "2RRA|2LA|2vk|2LLLA|2VA|2jb|2pv|2SA|2HA|2TTTA|1f p fb eh|2xh eh|2hr|1bm f AA|3I|3II|3U|3UU",
   "3bx R|4RR|@D46 3E|3EE|3AI|@D4A 3O|3OO|3AU|1f eh|1a cq REPH|1f PARA|@D54 1a CHILLU M|3Y|3LLL",
   "1AU lf z|1gl bq zb|3FORTIETH|2r EIGHTIETHS|2bq TWENTIETH|3TENTH|2r TWENTIETHS|2bq FIFTH",
   "1a hx II|2bx RR|3LL|1bm f bx L|4LL|@D66 1br do|2bq|2bk|2r|2aq|2aw|2eq|2ar|2ao|2cf|1ck ii",
   "2bq ab|3ac|1gl bq ef|3cc|2r ia|2bq rq|3gw|2r xf|1DATE z|1a CHILLU NN|3N|3RR|3L|3LL|3K",
   "@D81 0SINHALA f ce|2ANUSVARAYA|2VISARGAYA|@D85 1a AYANNA|2AAYANNA|2AEYANNA|2AEEYANNA|2IYANNA",
   "2IIYANNA|2UYANNA|2UUYANNA|2IRUYANNA|2IRUUYANNA|2ILUYANNA|2ILUUYANNA|2EYANNA|2EEYANNA|2AIYANNA",
   "2OYANNA|2OOYANNA|2AUYANNA|@D9A 2jh KAYANNA|2ij KAYANNA|2jh GAYANNA|2ij GAYANNA",
   "2KANTAJA NAASIKYAYA|2SANYAKA GAYANNA|2jh CAYANNA|2ij CAYANNA|2jh JAYANNA|2ij JAYANNA",
   "2TAALUJA NAASIKYAYA|3SANYOOGA NAAKSIKYAYA|2SANYAKA JAYANNA|2jh TTAYANNA|2ij TTAYANNA",
   "2jh DDAYANNA|2ij DDAYANNA|2MUURDHAJA NAYANNA|2SANYAKA DDAYANNA|2jh TAYANNA|2ij TAYANNA",
   "2jh DAYANNA|2ij DAYANNA|2DANTAJA NAYANNA|@DB3 2SANYAKA DAYANNA|2jh PAYANNA|2ij PAYANNA",
   "2jh BAYANNA|2ij BAYANNA|2MAYANNA|2AMBA BAYANNA|2YAYANNA|2RAYANNA|@DBD 2DANTAJA LAYANNA",
   "@DC0 2VAYANNA|2TAALUJA SAYANNA|2MUURDHAJA SAYANNA|2DANTAJA SAYANNA|2HAYANNA|2MUURDHAJA LAYANNA",
   "2FAYANNA|@DCA 1f AL-LAKUNA|@DCF 1bm f AELA-PILLA|3KETTI AEDA-PILLA|3DIGA AEDA-PILLA",
   "3KETTI IS-PILLA|3DIGA IS-PILLA|3KETTI PAA-PILLA|@DD6 3DIGA PAA-PILLA|@DD8 3GAETTA-PILLA",
   "3KOMBUVA|3DIGA KOMBUVA|3KOMBU DEKA|3KOMBUVA HAA AELA-PILLA|5DIGA AELA-PILLA|5GAYANUKITTA",
   "3GAYANUKITTA|@DE6 1LITH br do|3bq|3bk|3r|3aq|3aw|3eq|3ar|3ao|3cf|@DF2 1bm f DIGA GAETTA-PILLA",
   "4GAYANUKITTA|1az KUNDDALIYA|@E01 0THAI gt KO KAI|2KHO KHAI|3KHUAT|3KHWAI|3KHON|3RAKHANG",
   "2NGO NGU|2CHO CHAN|3CHING|3CHANG|2SO SO|2CHO CHOE|2YO YING|2DO CHADA|2TO PATAK|2THO THAN",
   "3NANGMONTHO|3PHUTHAO|2NO NEN|2DO DEK|2TO TAO|2THO THUNG|3THAHAN|3THONG|2NO NU|2BO BAIMAI",
   "2PO PLA|2PHO PHUNG|2FO FA|2PHO PHAN|2FO FAN|2PHO SAMPHAO|2MO MA|2YO YAK|2RO RUA|2RU|2LO LING",
   "2LU|2WO WAEN|2SO SALA|3RUSI|3SUA|2HO HIP|2LO CHULA|2O ANG|2HO NOKHUK|2PAIYANNOI|2SARA A",
   "2MAI HAN-AKAT|2SARA AA|3AM|3I|3II|3UE|3UEE|3U|3UU|2PHINTHU|@E3F 1wt u BAHT|1gt SARA E|3AE|3O",
   "3AI MAIMUAN|4MAIMALAI|2LAKKHANGYAO|2MAIYAMOK|2MAITAIKHU|2MAI EK|3THO|3TRI|3CHATTAWA",
   "2THANTHAKHAT|2NIKHAHIT|2YAMAKKAN|2FONGMAN|1br do|2bq|2bk|2r|2aq|2aw|2eq|2ar|2ao|2cf",
   "1gt ANGKHANKHU|2KHOMUT|@E81 0LAO a KO|2KHO SUNG|@E84 3TAM|@E86 2PALI nn|2NGO|2CO|2PALI js",
   "2SO TAM|@E8C 2PALI rp|2NYO|2PALI jv|3mq|3if|3nb|3ir|3oi|2DO|2TO|2THO SUNG|3TAM|2PALI no|2NO",
   "2BO|2PO|2PHO SUNG|2FO TAM|2PHO TAM|2FO SUNG|2PALI ot|2MO|2YO|2LO LING|@EA5 3LOOT|@EA7 2WO",
   "2SANSKRIT jb|3pv|2SO SUNG|2HO SUNG|2PALI vk|2O|2HO TAM|1pb|1bm f A|3MAI KAN|3AA|3AM|3I|3II|3Y",
   "3YY|3U|3UU|1f PALI eh|1bm f MAI KON|1SEMIVOWEL f LO|3NYO|@EC0 1bm f E|3EI|3O|3AY|3AI",
   "@EC6 1KO LA|@EC8 1em MAI EK|3THO|3TI|3CATAWA|1tj z|1NIGGAHITA|@ED0 1br do|2bq|2bk|2r|2aq|2aw",
   "2eq|2ar|2ao|2cf|@EDC 1HO NO|2MO|1a KHMU GO|3NYO|@F00 0TIBETAN hh OM",
   "1z GTER YIG MGO TRUNCATED A|5-UM RNAM BCAD MA|6GTER tk MA|2q YIG MGO MDUN MA",
   "2CLOSING YIG MGO SGAB MA|2vl YIG MGO PHUR tl MA|2YIG MGO tk tl MA|2SBRUL tl|2BSKUR YIG MGO",
   "2BKA- SHOG YIG MGO|2INTERSYLLABIC tk|2zw tk BSTAR|2tl|2NYIS tl|2tk tl|2NYIS tk tl",
   "2RIN CHEN SPUNGS tl|2RGYA GRAM tl|2vl -DZUD sh ME eg CAN|2GTER tk|1LOGOTYPE f CHAD sh|3LHAG sh",
   "1ASTROLOGICAL f SGRA GCAN -CHAR sh|3-KHYUD PA|3SDONG TSHUGS|1f RDEL DKAR GCIG|4GNYIS|4GSUM",
   "3NAG GCIG|4GNYIS|3DKAR RDEL NAG|1br do|2bq|2bk|2r|2aq|2aw|2eq|2ar|2ao|2cf|2cc bq|3bk|3r|3aq",
   "3aw|3eq|3ar|3ao|3cf|3do|1z BSDUS sh|2NGAS BZUNG NYI ZLA|2vl -DZUD sh BZHI MIG CAN",
   "2NGAS BZUNG SGOR sh|2CHE MGO|2uj -PHRU|2GUG sh GYON|4GYAS|2ANG KHANG GYON|4GYAS|1f YAR TSHES",
   "2MAR TSHES|1a KA|2jx|2GA|2nn|2ja|2CA|2js|2JA|@F49 2jv|2mq|2if|2nb|2ir|2oi|2TA|2kk|2DA|2no|2NA",
   "2PA|2lp|2BA|2ot|2MA|2uj|2us|2DZA|2DZHA|2WA|2zv|2ZA|2-A|2YA|2RA|2LA|2jb|2pv|2SA|2HA|2A|2KSSA",
   "2FIXED-FORM RA|2KKA|2RRA|@F71 1bm f AA|3I|3II|3U|3UU|3bx R|4RR|4L|4LL|3E|3EE|3O|3OO",
   "1f RJES SU ja RO|2RNAM BCAD|1bm f as I|4II|1f NYI ZLA NAA DA|2SNA LDAN|1z HALANTA|2PALUTA",
   "1f LCI sh|2yv sh|2LCE uj CAN|2MCHU CAN|2GRU CAN RGYINGS|3MED RGYINGS|2bf MCHU CAN",
   "1rr f LCE uj CAN|3MCHU CAN|3bf MCHU CAN|2a KA|3jx|3GA|3nn|3ja|3CA|3js|3JA|@F99 3jv|3mq|3if|3nb",
   "3ir|3oi|3TA|3kk|3DA|3no|3NA|3PA|3lp|3BA|3ot|3MA|3uj|3us|3DZA|3DZHA|3WA|3zv|3ZA|3-A|3YA|3RA|3LA",
   "3jb|3pv|3SA|3HA|3A|3KSSA|3FIXED-FORM WA|4YA|4RA|@FBE 1KU RU jx|4BZHI MIG CAN",
   "1CANTILLATION f aj BEAT|3bn BEAT|3CANG TE-U|3SBUB -CHAL|1u DRIL BU|2RDO RJE|2PADMA GDAN",
   "2RDO RJE RGYA GRAM|2PHUR PA|2NOR BU|4NYIS -KHYIL|4GSUM -KHYIL|4BZHI -KHYIL",
   "@FCE 1f RDEL NAG RDEL DKAR|4GSUM|1z BSKA- SHOG GI MGO RGYAN|2MNYAM YIG GI MGO RGYAN|2NYIS tk",
   "2q BRDA RNYING YIG MGO MDUN MA|2CLOSING BRDA RNYING YIG MGO SGAB MA|0td SVASTI f|0vh SVASTI f",
   "0td SVASTI f b cr|0vh SVASTI f b cr|0TIBETAN z LEADING MCHAN sh|2TRAILING MCHAN sh",
   "@1000 0MYANMAR a KA|2jx|2GA|2nn|2ja|2CA|2js|2JA|2rp|2jv|2NNYA|2mq|2if|2nb|2ir|2oi|2TA|2kk|2DA",
   "2no|2NA|2PA|2lp|2BA|2ot|2MA|2YA|2RA|2LA|2WA|2SA|2HA|2vk|2A|2SHAN A|2I|2II|2U|2UU|2E|2MON E|2O",
   "2AU|1bm f TALL AA|3AA|3I|3II|3U|3UU|3E|3AI|3MON II|4O|3E j|1f bu|2cq v|2ds|2eh|2ASAT",
   "1en f bd YA|4RA|4WA|4HA|1a GREAT SA|1br do|2bq|2bk|2r|2aq|2aw|2eq|2ar|2ao|2cf|1f dd ge|2ge",
   "1u LOCATIVE|2COMPLETED|2AFOREMENTIONED|2GENITIVE|1a jb|2pv|2bx R|3RR|3L|3LL|1bm f bx R|4RR|4L",
   "4LL|1a MON ja|3rp|3BBA|3BBE|1en f MON bd NA|5MA|5LA|1a SGAW xi jb|1bm f SGAW xi EU",
   "1em z SGAW xi HATHI|5KE PHO|1a WESTERN PWO xi kk|5PWA|1bm f WESTERN PWO xi EU|6UE",
   "1f WESTERN PWO xi TONE-1|+4|1a EASTERN PWO xi oi|5YWA|5GHWA|1bm f GEBA xi I|3KAYAH OE|4U|4EE",
   "1a SHAN KA|3jx|3GA|3CA|3ZA|3jv|3DA|3NA|3lp|3FA|3BA|3kk|3HA|1en f SHAN bd WA|1bm f SHAN AA|4E",
   "5j|4m Y|1f SHAN TONE-2|+|3TONE-5|+|3COUNCIL TONE-2|+|4EMPHATIC em|1a RUMAI PALAUNG FA",
   "1f RUMAI PALAUNG TONE-5|1SHAN br do|3bq|3bk|3r|3aq|3aw|3eq|3ar|3ao|3cf|1f KHAMTI TONE-1",
   "3TONE-3|1bm f AITON A|4AI|1u SHAN bq|3cv|0xj c a AN|3BAN|3GAN|3DON|3EN|3VIN|3ZEN|3TAN|3IN|3KAN",
   "3LAS|3MAN|3NAR|3ON|3PAR|3ZHAR|3RAE|3SAN|3TAR|3UN|3PHAR|3KHAR|3GHAN|3QAR|3lb|3CHIN|3CAN|3JIL",
   "3CIL|3CHAR|3XAN|3JHAN|3HAE|3HE|3HIE|3WE|3HAR|3HOE|@10C7 3YN|@10CD 3AEN|@10D0 1a AN|2BAN|2GAN",
   "2DON|2EN|2VIN|2ZEN|2TAN|2IN|2KAN|2LAS|2MAN|2NAR|2ON|2PAR|2ZHAR|2RAE|2SAN|2TAR|2UN|2PHAR|2KHAR",
   "2GHAN|2QAR|2lb|2CHIN|2CAN|2JIL|2CIL|2CHAR|2XAN|2JHAN|2HAE|2HE|2HIE|2WE|2HAR|2HOE|2FI|2YN",
   "2ELIFI|2bl GAN|2te|1up cy|0dt a xj NAR|0xj a AEN|2HARD f|2LABIAL f|0qy CHOSEONG ut|2vm|2zx|2uu",
   "2vn|2zy|2zz|2PIEUP|2xk|2SIOS|2SSANGSIOS|2xl|2xm|2xn|2rs|2rt|2ru|2rv|2HIEUH|2NIEUN-KIYEOK",
   "2SSANGNIEUN|2NIEUN-TIKEUT|2NIEUN-PIEUP|2TIKEUT-KIYEOK|2RIEUL-NIEUN|2SSANGRIEUL|2vo",
   "2KAPYEOUNRIEUL|2MIEUM-PIEUP|2zc|2PIEUP-KIYEOK|2PIEUP-NIEUN|2PIEUP-TIKEUT|2xo",
   "2PIEUP-SIOS-KIYEOK|2tm|2PIEUP-SIOS-PIEUP|2PIEUP-SSANGSIOS|2PIEUP-SIOS-CIEUC|2PIEUP-CIEUC",
   "2PIEUP-CHIEUCH|2PIEUP-THIEUTH|2PIEUP-PHIEUPH|2zd|2KAPYEOUNSSANGPIEUP|2SIOS-KIYEOK|2SIOS-NIEUN",
   "2SIOS-TIKEUT|2SIOS-RIEUL|2SIOS-MIEUM|2SIOS-PIEUP|2SIOS-PIEUP-KIYEOK|2SIOS-SSANGSIOS",
   "2SIOS-IEUNG|2SIOS-CIEUC|2SIOS-CHIEUCH|2SIOS-KHIEUKH|2SIOS-THIEUTH|2SIOS-PHIEUPH|2SIOS-HIEUH",
   "2CHITUEUMSIOS|2CHITUEUMSSANGSIOS|2CEONGCHIEUMSIOS|2CEONGCHIEUMSSANGSIOS|2PANSIOS|2IEUNG-KIYEOK",
   "2IEUNG-TIKEUT|2IEUNG-MIEUM|2IEUNG-PIEUP|2IEUNG-SIOS|2IEUNG-PANSIOS|2SSANGIEUNG|2IEUNG-CIEUC",
   "2IEUNG-CHIEUCH|2IEUNG-THIEUTH|2IEUNG-PHIEUPH|2YESIEUNG|2CIEUC-IEUNG|2CHITUEUMCIEUC",
   "2CHITUEUMSSANGCIEUC|2CEONGCHIEUMCIEUC|2CEONGCHIEUMSSANGCIEUC|2CHIEUCH-KHIEUKH|2CHIEUCH-HIEUH",
   "2CHITUEUMCHIEUCH|2CEONGCHIEUMCHIEUCH|2PHIEUPH-PIEUP|2wd|2SSANGHIEUH|2YEORINHIEUH",
   "2KIYEOK-TIKEUT|2NIEUN-SIOS|2vp|2vq|2TIKEUT-RIEUL|2ss|1JUNGSEONG ss|2A|2AE|2YA|2YAE|2EO|2E|2YEO",
   "2YE|2O|2WA|2WAE|2OE|2YO|2U|2WEO|2WE|2WI|2YU|2EU|2YI|2I|2A-O|2A-U|2YA-O|2YA-YO|2EO-O|2EO-U",
   "2EO-EU|2YEO-O|2YEO-U|2O-EO|2O-E|2O-YE|2O-O|2O-U|2YO-YA|2YO-YAE|2YO-YEO|2YO-O|2YO-I|2U-A|2U-AE",
   "2U-EO-EU|2U-YE|2U-U|2YU-A|2YU-EO|2YU-E|2YU-YEO|2YU-YE|2YU-U|2YU-I|2EU-U|2EU-EU|2YI-U|2I-A",
   "2I-YA|2I-O|2I-U|2I-EU|2I-ARAEA|2ARAEA|2ARAEA-EO|2ARAEA-U|2ARAEA-I|2SSANGARAEA|2A-EU|2YA-U",
   "2YEO-YA|2O-YA|2O-YAE|1JONGSEONG ut|2vm|2KIYEOK-SIOS|2zx|2vp|2vq|2uu|2zy|2tn|2vr|2vs|2xp|2ze",
   "2zf|2vo|2zz|2PIEUP|2xo|2SIOS|2SSANGSIOS|2xl|2xm|2rs|2rt|2ru|2rv|2HIEUH|2KIYEOK-RIEUL",
   "2KIYEOK-SIOS-KIYEOK|2NIEUN-KIYEOK|2NIEUN-TIKEUT|2NIEUN-SIOS|2NIEUN-PANSIOS|2NIEUN-THIEUTH",
   "2TIKEUT-KIYEOK|2TIKEUT-RIEUL|2RIEUL-KIYEOK-SIOS|2RIEUL-NIEUN|2RIEUL-TIKEUT|2RIEUL-TIKEUT-HIEUH",
   "2SSANGRIEUL|2RIEUL-MIEUM-KIYEOK|2RIEUL-MIEUM-SIOS|2RIEUL-PIEUP-SIOS|2RIEUL-PIEUP-HIEUH",
   "2RIEUL-KAPYEOUNPIEUP|2RIEUL-SSANGSIOS|2RIEUL-PANSIOS|2RIEUL-KHIEUKH|2RIEUL-YEORINHIEUH",
   "2MIEUM-KIYEOK|2MIEUM-RIEUL|2MIEUM-PIEUP|2MIEUM-SIOS|2MIEUM-SSANGSIOS|2MIEUM-PANSIOS",
   "2MIEUM-CHIEUCH|2MIEUM-HIEUH|2zc|2PIEUP-RIEUL|2PIEUP-PHIEUPH|2PIEUP-HIEUH|2zd|2SIOS-KIYEOK",
   "2SIOS-TIKEUT|2SIOS-RIEUL|2SIOS-PIEUP|2PANSIOS|2IEUNG-KIYEOK|2IEUNG-SSANGKIYEOK|2SSANGIEUNG",
   "2IEUNG-KHIEUKH|2YESIEUNG|2YESIEUNG-SIOS|2YESIEUNG-PANSIOS|2PHIEUPH-PIEUP|2wd|2HIEUH-NIEUN",
   "2HIEUH-RIEUL|2HIEUH-MIEUM|2HIEUH-PIEUP|2YEORINHIEUH|2KIYEOK-NIEUN|2KIYEOK-PIEUP",
   "2KIYEOK-CHIEUCH|2KIYEOK-KHIEUKH|2KIYEOK-HIEUH|2SSANGNIEUN|0ETHIOPIC hh HA|2HU|2HI|2HAA|2HEE",
   "2HE|2HO|2HOA|2LA|2LU|2LI|2LAA|2LEE|2LE|2LO|2LWA|2HHA|2HHU|2HHI|2HHAA|2HHEE|2HHE|2HHO|2HHWA|2MA",
   "2MU|2MI|2MAA|2MEE|2ME|2MO|2MWA|2SZA|2SZU|2SZI|2SZAA|2SZEE|2SZE|2SZO|2SZWA|2RA|2RU|2RI|2RAA",
   "2REE|2RE|2RO|2RWA|2SA|2SU|2SI|2SAA|2SEE|2SE|2SO|2SWA|2jb|2SHU|2SHI|2SHAA|2SHEE|2si|2SHO|2SHWA",
   "2QA|2QU|2QI|2QAA|2QEE|2QE|2QO|2QOA|2QWA|@124A 2QWI|2QWAA|2QWEE|2QWE|@1250 2QHA|2QHU|2QHI|2QHAA",
   "2QHEE|2QHE|2QHO|@1258 2QHWA|@125A 2QHWI|2QHWAA|2QHWEE|2QHWE|@1260 2BA|2BU|2BI|2BAA|2BEE|2BE",
   "2BO|2BWA|2VA|2VU|2VI|2VAA|2VEE|2VE|2VO|2VWA|2TA|2TU|2TI|2TAA|2TEE|2TE|2TO|2TWA|2CA|2CU|2CI",
   "2CAA|2CEE|2CE|2CO|2CWA|2XA|2XU|2XI|2XAA|2XEE|2XE|2XO|2XOA|2XWA|@128A 2XWI|2XWAA|2XWEE|2XWE",
   "@1290 2NA|2NU|2NI|2NAA|2NEE|2NE|2NO|2NWA|2jv|2NYU|2NYI|2NYAA|2NYEE|2NYE|2NYO|2NYWA|2gf A|3U|3I",
   "3AA|3EE|3E|3O|3WA|2KA|2KU|2KI|2KAA|2KEE|2KE|2KO|2KOA|2KWA|@12B2 2KWI|2KWAA|2KWEE|2KWE",
   "@12B8 2KXA|2KXU|2KXI|2KXAA|2KXEE|2KXE|2KXO|@12C0 2KXWA|@12C2 2KXWI|2KXWAA|2KXWEE|2KXWE",
   "@12C8 2WA|2WU|2WI|2WAA|2WEE|2WE|2WO|2WOA|2PHARYNGEAL A|3U|3I|3AA|3EE|3E|3O|@12D8 2ZA|2ZU|2ZI",
   "2ZAA|2ZEE|2ZE|2ZO|2ZWA|2zv|2ZHU|2ZHI|2ZHAA|2ZHEE|2ZHE|2ZHO|2ZHWA|2YA|2YU|2YI|2YAA|2YEE|2YE|2YO",
   "2YOA|2DA|2DU|2DI|2DAA|2DEE|2DE|2DO|2DWA|2nb|2DDU|2DDI|2DDAA|2DDEE|2DDE|2DDO|2DDWA|2JA|2JU|2JI",
   "2JAA|2JEE|2JE|2JO|2JWA|2GA|2GU|2GI|2GAA|2GEE|2GE|2GO|2GOA|2GWA|@1312 2GWI|2GWAA|2GWEE|2GWE",
   "@1318 2GGA|2GGU|2GGI|2GGAA|2GGEE|2GGE|2GGO|2GGWAA|2kk|2THU|2THI|2THAA|2THEE|2qn|2THO|2THWA|2js",
   "2CHU|2yu|2CHAA|2CHEE|2CHE|2CHO|2CHWA|2lp|2PHU|2wu|2PHAA|2PHEE|2PHE|2PHO|2PHWA|2uj|2TSU|2TSI",
   "2TSAA|2TSEE|2TSE|2TSO|2TSWA|2TZA|2TZU|2TZI|2TZAA|2TZEE|2TZE|2TZO|2TZOA|2FA|2FU|2FI|2FAA|2FEE",
   "2FE|2FO|2FWA|2PA|2PU|2PI|2PAA|2PEE|2PE|2PO|2PWA|2RYA|2MYA|2FYA|@135D 1cg sr s bm lf z|2bm lf z",
   "2sr z|1ge z|1WORDSPACE|1gy ex|1du|1iu|1hl|1PREFACE hl|1dy z|1up cy|1br bq|2bk|2r|2aq|2aw|2eq",
   "2ar|2ao|2cf|1ck ii|2ei|2ib|2ma|2hi|2nc|2eb|2lg|2ew|2ab|2ii ac|@1380 1hh SEBATBEIT MWA|2MWI",
   "2MWEE|2MWE|2SEBATBEIT BWA|2BWI|2BWEE|2BWE|2SEBATBEIT FWA|2FWI|2FWEE|2FWE|2SEBATBEIT PWA|2PWI",
   "2PWEE|2PWE|1TONAL z YIZET|3DERET|3RIKRIK|3ey RIKRIK|3DIFAT|3KENAT|3CHIRET|3HIDET|3DERET-HIDET",
   "3KURT|@13A0 0CHEROKEE a A|2E|2I|2O|2U|=|2GA|2KA|2GE|2GI|2GO|2GU|=|2HA|2HE|2HI|2HO|2HU|=|2LA",
   "2LE|2LI|2LO|2LU|=|2MA|2ME|2MI|2MO|2MU|2NA|2HNA|2NAH|2NE|2NI|2NO|2NU|=|2QUA|2QUE|2QUI|2QUO|2QUU",
   "=|2SA|2S|2SE|2SI|2SO|2SU|=|2DA|2TA|2DE|2TE|2DI|2TI|2DO|2DU|=|2DLA|2TLA|2TLE|2TLI|2TLO|2TLU|=",
   "2uj|2TSE|2TSI|2TSO|2TSU|=|2WA|2WE|2WI|2WO|2WU|=|2YA|2YE|2YI|2YO|2YU|=|2MV|@13F8 1k a YE|3YI",
   "3YO|3YU|=|3MV|@1400 0CANADIAN SYLLABICS og|2E|2AAI|2I|2II|2O|2OO|2oj OO|2mc EE|3I|2A|2AA|2WE",
   "2ag WE|2WI|2ag WI|2WII|2ag WII|2WO|2ag WO|2WOO|2ag WOO|2nx WOO|2WA|2ag WA|2WAA|2ag WAA|2nx WAA",
   "2AI|2oj W|2gf ex|2m dk|3er|3ft cc de|3pu cc de|3g cc de|3de|3l dk|4ey p STROKES|3af cq",
   "3ey x ad|3bw|3bz jr|2EN|2IN|2ON|2AN|2PE|2PAAI|2PI|2PII|2PO|2POO|2oj POO|2mc HEE|3HI|2PA|2PAA",
   "2PWE|2ag PWE|2PWI|2ag PWI|2PWII|2ag PWII|2PWO|2ag PWO|2PWOO|2ag PWOO|2PWA|2ag PWA|2PWAA",
   "2ag PWAA|2oj PWAA|2P|2ag P|2mc H|2TE|2TAAI|2TI|2TII|2TO|2TOO|2oj TOO|2mc DEE|3DI|2TA|2TAA|2TWE",
   "2ag TWE|2TWI|2ag TWI|2TWII|2ag TWII|2bk|2ag bk|2TWOO|2ag TWOO|2TWA|2ag TWA|2TWAA|2ag TWAA",
   "2nx TWAA|2T|2TTE|2TTI|2TTO|2mq|2KE|2KAAI|2KI|2KII|2KO|2KOO|2oj KOO|2KA|2KAA|2KWE|2ag KWE|2KWI",
   "2ag KWI|2KWII|2ag KWII|2KWO|2ag KWO|2KWOO|2ag KWOO|2KWA|2ag KWA|2KWAA|2ag KWAA|2nx KWAA|2K|2KW",
   "2SOUTH-SLAVEY KEH|3KIH|3KOH|3KAH|2CE|2CAAI|2CI|2CII|2CO|2COO|2oj COO|2CA|2CAA|2CWE|2ag CWE",
   "2CWI|2ag CWI|2CWII|2ag CWII|2CWO|2ag CWO|2CWOO|2ag CWOO|2CWA|2ag CWA|2CWAA|2ag CWAA|2nx CWAA",
   "2C|2st TH|2ME|2MAAI|2MI|2MII|2MO|2MOO|2oj MOO|2MA|2MAA|2MWE|2ag MWE|2MWI|2ag MWI|2MWII",
   "2ag MWII|2MWO|2ag MWO|2MWOO|2ag MWOO|2MWA|2ag MWA|2MWAA|2ag MWAA|2nx MWAA|2M|2ag M|2MH",
   "2ATHAPASCAN M|2st M|2NE|2NAAI|2NI|2NII|2NO|2NOO|2oj NOO|2NA|2NAA|2NWE|2ag NWE|2NWA|2ag NWA",
   "2NWAA|2ag NWAA|2nx NWAA|2N|2mc NG|2NH|2LE|2LAAI|2LI|2LII|2LO|2LOO|2oj LOO|2LA|2LAA|2LWE",
   "2ag LWE|2LWI|2ag LWI|2LWII|2ag LWII|2LWO|2ag LWO|2LWOO|2ag LWOO|2LWA|2ag LWA|2LWAA|2ag LWAA|2L",
   "2ag L|2bd L|2SE|2SAAI|2SI|2SII|2SO|2SOO|2oj SOO|2SA|2SAA|2SWE|2ag SWE|2SWI|2ag SWI|2SWII",
   "2ag SWII|2SWO|2ag SWO|2SWOO|2ag SWOO|2SWA|2ag SWA|2SWAA|2ag SWAA|2nx SWAA|2S|2ATHAPASCAN S|2SW",
   "2BLACKFOOT S|2MOOSE-CREE SK|2nx SKW|3S-W|3SPWA|3STWA|3SKWA|3SCWA|2si|2SHI|2SHII|2SHO|2SHOO|2jb",
   "2SHAA|2SHWE|2ag SHWE|2SHWI|2ag SHWI|2SHWII|2ag SHWII|2SHWO|2ag SHWO|2SHWOO|2ag SHWOO|2SHWA",
   "2ag SHWA|2SHWAA|2ag SHWAA|2SH|2YE|2YAAI|2YI|2YII|2YO|2YOO|2oj YOO|2YA|2YAA|2YWE|2ag YWE|2YWI",
   "2ag YWI|2YWII|2ag YWII|2YWO|2ag YWO|2YWOO|2ag YWOO|2YWA|2ag YWA|2YWAA|2ag YWAA|2nx YWAA|2Y",
   "2BIBLE-CREE Y|2ag Y|2st YI|2RE|2R-CREE RE|2ag LE|2RAAI|2RI|2RII|2RO|2ROO|2ag LO|2RA|2RAA",
   "2ag LA|2RWAA|2ag RWAA|2R|2ag R|2bd R|2FE|2FAAI|2FI|2FII|2FO|2FOO|2FA|2FAA|2FWAA|2ag FWAA|2F",
   "2qn|2N-CREE qn|2THI|2N-CREE THI|2THII|2N-CREE THII|2THO|2THOO|2kk|2THAA|2THWAA|2ag THWAA|2TH",
   "2TTHE|2TTHI|2TTHO|2if|2TTH|2TYE|2TYI|2TYO|2TYA|2NUNAVIK HE|3HI|3HII|3HO|3HOO|3HA|3HAA|3H",
   "2NUNAVUT H|2HK|2QAAI|2QI|2QII|2QO|2QOO|2QA|2QAA|2Q|2TLHE|2TLHI|2TLHO|2TLHA|2ag RE|3RI|3RO|3RA",
   "2NGAAI|2NGI|2NGII|2NGO|2NGOO|2ja|2NGAA|2NG|2NNG|2st si|3SHI|3SHO|3jb|2WOODS-CREE qn|3THI|3THO",
   "3kk|3TH|2LHI|2LHII|2LHO|2LHOO|2LHA|2LHAA|2LH|2TH-CREE qn|3THI|3THII|3THO|3THOO|3kk|3THAA|3TH",
   "2AIVILIK B|2BLACKFOOT E|3I|3O|3A|3WE|3WI|3WO|3WA|3NE|3NI|3NO|3NA|3KE|3KI|3KO|3KA|2st HE|3HI",
   "3HO|3HA|2mc GHU|3GHO|3GHE|3GHEE|3GHI|3nn|3RU|3RO|3RE|3REE|3RI|3RA|3WU|3WO|3WE|3WEE|3WI|3WA",
   "3HWU|3HWO|3HWE|3HWEE|3HWI|3HWA|3THU|3THO|3qn|3THEE|3THI|3kk|3TTU|3TTO|3TTE|3TTEE|3TTI|3mq|3PU",
   "3PO|3PE|3PEE|3PI|3PA|3P|3GU|3GO|3GE|3GEE|3GI|3GA|3KHU|3KHO|3KHE|3KHEE|3KHI|3jx|3KKU|3KKO|3KKE",
   "3KKEE|3KKI|3KKA|3KK|3NU|3NO|3NE|3NEE|3NI|3NA|3MU|3MO|3ME|3MEE|3MI|3MA|3YU|3YO|3YE|3YEE|3YI|3YA",
   "3JU|2st JU|2mc JO|3JE|3JEE|3JI|2st JI|2mc JA|3JJU|3JJO|3JJE|3JJEE|3JJI|3JJA|3LU|3LO|3LE|3LEE",
   "3LI|3LA|3DLU|3DLO|3DLE|3DLEE|3DLI|3DLA|3LHU|3LHO|3LHE|3LHEE|3LHI|3LHA|3TLHU|3TLHO|3TLHE|3TLHEE",
   "3TLHI|3TLHA|3TLU|3TLO|3TLE|3TLEE|3TLI|3TLA|3ZU|3ZO|3ZE|3ZEE|3ZI|3ZA|3Z|3q Z|3DZU|3DZO|3DZE",
   "3DZEE|3DZI|3DZA|3SU|3SO|3SE|3SEE|3SI|3SA|3SHU|3SHO|3si|3SHEE|3SHI|3jb|3SH|3TSU|3TSO|3TSE|3TSEE",
   "3TSI|3uj|3CHU|3CHO|3CHE|3CHEE|3yu|3js|3TTSU|3TTSO|3TTSE|3TTSEE|3TTSI|3TTSA|2yu f|2gy ex|2QAI",
   "2NGAI|2NNGI|2NNGII|2NNGO|2NNGOO|2NNGA|2NNGAA|2WOODS-CREE THWEE|3THWI|3THWII|3THWO|3THWOO|3THWA",
   "3THWAA|3m TH|2BLACKFOOT W|0OGHAM kc z|1a BEITH|2LUIS|2FEARN|2SAIL|2NION|2UATH|2DAIR|2TINNE",
   "2COLL|2CEIRT|2MUIN|2GORT|2NGEADAL|2STRAIF|2RUIS|2AILM|2ONN|2UR|2EADHADH|2IODHADH|2EABHADH|2OR",
   "2UILLEANN|2IFIN|2EAMHANCHOLL|2PEITH|1FEATHER z|1as FEATHER z|@16A0 0RUNIC a FEHU FEOH FE F|2V",
   "2URUZ UR U|2YR|2Y|2W|2THURISAZ THURS THORN|2ETH|2ANSUZ A|2OS O|2AC A|2AESC|2LONG-BRANCH-OSS O",
   "2SHORT-TWIG-OSS O|2O|2OE|2ON|2RAIDO RAD REID R|2KAUNA|2CEN|2KAUN K|2G|2ENG|2GEBO GYFU G|2we",
   "2WUNJO WYNN W|2HAGLAZ H|2HAEGL H|2LONG-BRANCH-HAGALL H|2SHORT-TWIG-HAGALL H|2NAUDIZ NYD NAUD N",
   "2SHORT-TWIG-NAUD N|2DOTTED-N|2ISAZ IS ISS I|2E|2JERAN J|2GER|2LONG-BRANCH-AR AE",
   "2SHORT-TWIG-AR A|2IWAZ EOH|2PERTHO PEORTH P|2ALGIZ EOLHX|2SOWILO S|2SIGEL LONG-BRANCH-SOL S",
   "2SHORT-TWIG-SOL S|2C|2Z|2TIWAZ TIR TYR T|2SHORT-TWIG-TYR T|2D|2BERKANAN BEORC BJARKAN B",
   "2SHORT-TWIG-BJARKAN B|2DOTTED-P|2OPEN-P|2EHWAZ EH E|2MANNAZ MAN M|2LONG-BRANCH-MADR M",
   "2SHORT-TWIG-MADR M|2LAUKAZ LAGU LOGR L|2DOTTED-L|2INGWAZ|2ING|2DAGAZ DAEG D|2OTHALAN ETHEL O",
   "2EAR|2IOR|2CWEORTH|2CALC|2CEALC|2STAN|2LONG-BRANCH-YR|2SHORT-TWIG-YR|2ICELANDIC-YR|2Q|2X",
   "1bv az|1ji az|1fk az|1ARLAUG u|1TVIMADUR u|1BELGTHOR u|1a K|2SH|2OO|2FRANKS CASKET OS|4IS|4EH",
   "4AC|4AESC|@1700 0TAGALOG a A|2I|2U|2KA|2GA|2ja|2TA|2DA|2NA|2PA|2BA|2MA|2YA|2RA|2LA|2WA|2SA|2HA",
   "1bm f I|3U|1f eh|2PAMUDPOD|@171F 1a hx RA|0HANUNOO a A|2I|2U|2KA|2GA|2ja|2TA|2DA|2NA|2PA|2BA",
   "2MA|2YA|2RA|2LA|2WA|2SA|2HA|1bm f I|3U|1f PAMUDPOD|0PHILIPPINE bv az|1l az|@1740 0BUHID a A|2I",
   "2U|2KA|2GA|2ja|2TA|2DA|2NA|2PA|2BA|2MA|2YA|2RA|2LA|2WA|2SA|2HA|1bm f I|3U|@1760 0TAGBANWA a A",
   "2I|2U|2KA|2GA|2ja|2TA|2DA|2NA|2PA|2BA|2MA|2YA|@176E 2LA|2WA|2SA|@1772 1bm f I|3U",
   "@1780 0KHMER a KA|2jx|2KO|2KHO|2NGO|2CA|2js|2CO|2CHO|2NYO|2DA|2if|2DO|2TTHO|2NNO|2TA|2kk|2TO",
   "2THO|2NO|2BA|2lp|2PO|2PHO|2MO|2YO|2RO|2LO|2VO|2jb|2SSO|2SA|2HA|2LA|2QA|1kd bm QAQ|3QAA|3QI",
   "3QII|3QU|3QUK|3QUU|3QUUV|3RY|3RYY|3LY|3LYY|3QE|3QAI|3QOO TYPE bq|5bk|3QAU|1bm INHERENT AQ|3AA",
   "2f AA|3I|3II|3Y|3YY|3U|3UU|3UA|3OE|3YA|3IE|3E|3AE|3AI|3OO|3AU|1f NIKAHIT|2REAHMUK",
   "2YUUKALEAPINTU|2MUUSIKATOAN|2TRIISAP|2BANTOC|2ROBAT|2TOANDAKHIAT|2KAKABAT|2AHSDA",
   "2SAMYOK SANNYA|2VIRIAM|2COENG|2BATHAMASAT|2KHAN|2BARIYOOSAN|2CAMNUC PII KUUH|2LEK TOO|2BEYYAL",
   "2PHNAEK MUAN|2KOOMUUT|1wt u RIEL|1f AVAKRAHASANYA|2ATTHACAN|@17E0 1br do|2bq|2bk|2r|2aq|2aw",
   "2eq|2ar|2ao|2cf|@17F0 1u LEK ATTAK SON|4MUOY|4PII|4BEI|4BUON|4PRAM|4PRAM-MUOY|4PRAM-PII",
   "4PRAM-BEI|4PRAM-BUON|@1800 0MONGOLIAN vt|1pb|1du|1gy ex|1hl|1aq cr|1TODO SOFT og",
   "1SIBE hh BOUNDARY um|1MANCHU du|2gy ex|1NIRUGU|1FREE uv SELECTOR bq|4bk|4r|1bm cy",
   "1FREE uv SELECTOR aq|1br do|2bq|2bk|2r|2aq|2aw|2eq|2ar|2ao|2cf|@1820 1a A|2E|2I|2O|2U|2OE|2UE",
   "2EE|2NA|2ANG|2BA|2PA|2QA|2GA|2MA|2LA|2SA|2jb|2TA|2DA|2js|2JA|2YA|2RA|2WA|2FA|2KA|2jx|2uj|2ZA",
   "2HAA|2ZRA|2LHA|2ZHI|2yu|2TODO eg bm f|3E|3I|3O|3U|3OE|3UE|3ANG|3BA|3PA|3QA|3GA|3MA|3TA|3DA|3js",
   "3JA|3uj|3YA|3WA|3KA|3GAA|3HAA|3JIA|3NIA|3DZA|2SIBE E|3I|3IY|3UE|3U|3ANG|3KA|3GA|3HA|3PA|3jb",
   "3TA|3DA|3JA|3FA|3GAA|3HAA|3uj|3ZA|3RAA|3js|3zv|2MANCHU I|3KA|3RA|3FA|3zv|2js b bk cr",
   "@1880 2ALI GALI bu bq|4ds bq|4DAMARU|4UBADAMA|4bf UBADAMA|4BALUDA|4r BALUDA|4A|4I|4KA|4ja|4CA",
   "4mq|4if|4nb|4oi|4TA|4DA|4PA|4lp|4pv|4zv|4ZA|4AH|2TODO ALI GALI TA|5zv|2MANCHU ALI GALI nn|5ja",
   "5CA|5rp|5mq|5ir|5TA|5no|5pv|5CYA|5zv|5ZA|2ALI GALI cc U|5YA|2MANCHU ALI GALI ot",
   "2ALI GALI DAGALGA|2MANCHU ALI GALI LHA|@18B0 0CANADIAN SYLLABICS OY|2AY|2AAY|2WAY|2POY|2PAY",
   "2PWOY|2TAY|2KAY|2KWAY|2MAY|2NOY|2NAY|2LAY|2SOY|2SAY|2SHOY|2SHAY|2SHWOY|2YOY|2YAY|2RAY|2NWI",
   "2OJIBWAY NWI|2NWII|2OJIBWAY NWII|2NWO|2OJIBWAY NWO|2NWOO|2OJIBWAY NWOO|2RWEE|2RWI|2RWII|2RWO",
   "2RWOO|2RWA|2OJIBWAY P|3T|3K|3C|3M|=|3S|3SH|2EASTERN W|2WESTERN W|2m k de|3ha cq|2R-CREE RWE",
   "2ag LOO|3LAA|2THWE|2THWA|2TTHWE|2TTHOO|2TTHAA|2TLHWE|2TLHOO|2st SHWE|3SHOO|3HOO|2mc GWU",
   "3DENE GEE|3GAA|3GWA|2st JUU|2mc JWA|2BEAVER DENE L|4R|2mc DENTAL S",
   "@1900 0LIMBU VOWEL-CARRIER a|1a KA|2jx|2GA|2nn|2ja|2CA|2js|2JA|2rp|2YAN|2TA|2kk|2DA|2no|2NA",
   "2PA|2lp|2BA|2ot|2MA|2YA|2RA|2LA|2WA|2jb|2pv|2SA|2HA|2GYAN|2TRA|@1920 1bm f A|3I|3U|3EE|3AI|3OO",
   "3AU|3E|3O|1rr a YA|3RA|3WA|@1930 1k a KA|3ja|3bu|3TA|3NA|3PA|3MA|3RA|3LA|1f MUKPHRENG",
   "2KEMPHRENG|2SA-I|@1940 2LOO|@1944 1cv z|1dy z|1br do|2bq|2bk|2r|2aq|2aw|2eq|2ar|2ao|2cf",
   "0TAI LE a KA|3XA|3ja|3uj|3SA|3YA|3TA|3kk|3LA|3PA|3lp|3MA|3FA|3VA|3HA|3QA|3jx|3us|3NA|3A|3I|3EE",
   "3EH|3U|3OO|3O|3UE|3E|3AUE|3AI|@1970 3TONE-2|+4|@1980 0NEW TAI LUE a es QA|4hj QA|4es KA|5XA",
   "5ja|4hj KA|5XA|5ja|4es uj|5SA|5YA|4hj uj|5SA|5YA|4es TA|5kk|5NA|4hj TA|5kk|5NA|4es PA|5lp|5MA",
   "4hj PA|5lp|5MA|4es FA|5VA|5LA|4hj FA|5VA|5LA|4es HA|5DA|5BA|4hj HA|5DA|5BA|4es KVA|5XVA",
   "4hj KVA|5XVA|4es SUA|4hj SUA|@19B0 3bm f bm SHORTENER|5AA|5II|5U|5UU|5E|5AE|5O|5OA|5UE|5AY",
   "5AAY|5UY|5OY|5OAY|5UEY|5IY|3a m V|5NG|5N|5M|5K|5D|5B|3em MARK-1|+|@19D0 3br do|4bq|4bk|4r|4aq",
   "4aw|4eq|4ar|4ao|4cf|3THAM br bq|@19DE 3f LAE|4LAEV|0KHMER u PATHAMASAT|2MUOY uw|2PII uw",
   "2BEI uw|2BUON uw|2PRAM uw|2PRAM-MUOY uw|2PRAM-PII uw|2PRAM-BEI uw|2PRAM-BUON uw|2DAP uw",
   "2DAP-MUOY uw|2DAP-PII uw|2DAP-BEI uw|2DAP-BUON uw|2DAP-PRAM uw|2TUTEYASAT|2MUOY ROC|2PII ROC",
   "2BEI ROC|2BUON ROC|2PRAM ROC|2PRAM-MUOY ROC|2PRAM-PII ROC|2PRAM-BEI ROC|2PRAM-BUON ROC",
   "2DAP ROC|2DAP-MUOY ROC|2DAP-PII ROC|2DAP-BEI ROC|2DAP-BUON ROC|2DAP-PRAM ROC|0BUGINESE a KA",
   "2GA|2ja|2NGKA|2PA|2BA|2MA|2MPA|2TA|2DA|2NA|2NRA|2CA|2JA|2jv|2NYCA|2YA|2RA|2LA|2VA|2SA|2A|2HA",
   "1bm f I|3U|3E|3O|3AE|@1A1E 1PALLAWA|1qr OF ge|0TAI THAM a es KA|4jx|4KXA|3hj KA|4KXA|4jx|3ja",
   "3es CA|4js|3hj CA|4SA|4js|3jv|3RATA|3es RATHA|3DA|3hj RATHA|3RANA|3es TA|4kk|3hj TA|4kk|3NA",
   "3BA|3es PA|4lp|4FA|3hj PA|4FA|4lp|3MA|3hj YA|3es YA|3RA|3RUE|3LA|3LUE|3WA|3es jb|4pv|4SA|4HA",
   "3vk|3A|3hj HA|3I|3II|3U|3UU|3EE|3OO|3LAE|3GREAT SA|2en f bd RA|5LA|4LA TANG LAI",
   "2f MAI KANG LAI|2en f m ja|4hj PA|4es RATHA OR hj PA|4MA|4BA|4SA|@1A60 2f SAKOT|2bm f A",
   "4MAI SAT|4AA|4TALL AA|4I|4II|4UE|4UUE|4U|4UU|4O|4OA v|4OY|4E|4AE|4OO|4AI|4THAM AI|4OA j",
   "2f MAI KANG|3TONE-1|+|3KHUEN TONE-3|+2|3RA HAAM|3MAI SAM|3KHUEN-LUE KARAN|@1A7F 2cg ok cq",
   "2HORA br do|4bq|4bk|4r|4aq|4aw|4eq|4ar|4ao|4cf|@1A90 2THAM br do|4bq|4bk|4r|4aq|4aw|4eq|4ar",
   "4ao|4cf|@1AA0 2f WIANG|3WIANGWAAK|3SAWAN|3KEOW|3HOY|3DOKMAI|3as bp RANA|3MAI YAMOK|3KAAN",
   "3KAANKUU|3SATKAAN|3SATKAANKUU|3HANG|3CAANG|@1AB0 0cg DOUBLED au eu|1DIAERESIS-RING|1to|1aa e",
   "1dm cq|1X-X v|1WIGGLY fn v|1ea z v|1l ea z v|1bn qz ad v|1STRONG qz ad v|1PARENTHESES j",
   "1l PARENTHESES j|1PARENTHESES v|2hk|1ek k a W v|4bl W v|1n bb j n|1g bb j g|1n bb v n",
   "1g bb v g|1al BRACKETS j|1ck f j|1bf l ARCH j|1bw f j|1l bw f j|4v|1dm dk eu|1ek k a md G|5R",
   "5T|@1B00 0BALINESE f ULU RICEM|3le|2CECEK|2SURANG|2BISAH|1a AKARA|3ol|2IKARA|3ol|2UKARA|3ol",
   "2RA REPA|4ol|2LA LENGA|4ol|2EKARA|2AIKARA|2OKARA|3ol|2KA|3mr|2GA|3GORA|2ja|2CA|3LACA|2JA|3JERA",
   "2jv|2TA LATIK|3tp mr|2DA tp ALPAPRANA|4mr|2NA RAMBAT|2TA|3TAWA|2DA|3MADU|2NA|2PA|3KAPAL|2BA",
   "3KEMBANG|2MA|2YA|2RA|2LA|2WA|2SA SAGA|3SAPA|3|2HA|1f REREKAN|1bm f ol|3ULU|4SARI|3SUKU|4ILUT",
   "3RA REPA|5ol|3LA LENGA|5ol|3TALING|4REPA|4ol|4REPA ol|3PEPET|4ol|1ADEG ADEG|1a ui SASAK",
   "2KHOT SASAK|2TZIR SASAK|2EF SASAK|2VE SASAK|2ZAL SASAK|2ASYURA SASAK|2hx JNYA|@1B50 1br do|2bq",
   "2bk|2r|2aq|2aw|2eq|2ar|2ao|2cf|1PANTI|1PAMADA|1WINDU|1CARIK PAMUNGKAH|2SIKI|2PAREREN|1PAMENENG",
   "1kl u DONG|3DENG|3DUNG|3DANG|4SURANG|3DING|3DAENG|3DEUNG|3DAING|3DANG GEDE|3cg TEGEH|4ENDEP",
   "4KEMPUL|4KEMPLI|4JEGOGAN|4KEMPUL b JEGOGAN|4KEMPLI b JEGOGAN|4BENDE|4GONG|3RIGHT-HAND ea DUG",
   "5DAG|4fs TUK|5TAK|3LEFT-HAND ea PANG|5PUNG|4fs PLAK|5PLUK|4ea PING|1PANTI LANTANG",
   "1PAMADA LANTANG|@1B80 0SUNDANESE f PANYECEK|2PANGLAYAR|2PANGWISAD|1a A|2I|2U|2AE|2O|2E|2EU|2KA",
   "2QA|2GA|2ja|2CA|2JA|2ZA|2jv|2TA|2DA|2NA|2PA|2FA|2VA|2BA|2MA|2YA|2RA|2LA|2WA|2SA|2XA|2HA",
   "1en f PAMINGKAL|3PANYAKRA|3PANYIKU|1bm f PANGHULU|3PANYUKU|3PANAELAENG|3PANOLONG|3PAMEPET",
   "3PANEULEUNG|1f PAMAAEH|2eh|1en f PASANGAN MA|4WA|1a jx|2SYA|1br do|2bq|2bk|2r|2aq|2aw|2eq|2ar",
   "2ao|2cf|1hr|1a REU|2LEU|2ot|2m K|3M|0BATAK a A|2im A|2HA|2im HA|2MANDAILING HA|2BA|2KARO BA",
   "2PA|2im PA|2NA|2MANDAILING NA|2WA|2im WA|2PAKPAK WA|2GA|2im GA|2JA|2DA|2RA|2im RA|2MA|2im MA",
   "2SOUTHERN TA|2NORTHERN TA|2SA|2im SA|2MANDAILING SA|2YA|2im YA|2ja|2LA|2im LA|2jv|2CA|2NDA",
   "2MBA|2I|2U|1f TOMPI|1bm f E|3PAKPAK E|3EE|3I|3KARO I|3O|3KARO O|3U|4qk im SA|1en f NG|3H",
   "1PANGOLAT|1PANONGONAN|@1BFC 1u BINDU NA METEK|3PINARBORAS|3JUDUL|3PANGOLAT|0LEPCHA a KA|2KLA",
   "2jx|2GA|2GLA|2ja|2CA|2js|2JA|2jv|2TA|2kk|2DA|2NA|2PA|2PLA|2lp|2FA|2FLA|2BA|2BLA|2MA|2MLA|2uj",
   "2us|2DZA|2YA|2RA|2LA|2HA|2HLA|2VA|2SA|2jb|2WA|2A|1rr a YA|3RA|1bm f AA|3I|3O|3OO|3U|3UU|3E",
   "1en f K|3M|3L|3N|3P|3R|3T|3NYIN-DO|3KANG|1f RAN|2jg|@1C3B 1az TA-ROL|2NYET THYOOM TA-ROL",
   "2CER-WA|2TSHOOK CER-WA|3|1br do|2bq|2bk|2r|2aq|2aw|2eq|2ar|2ao|2cf|@1C4D 1a mq|2if|2nb",
   "0OL CHIKI br do|3bq|3bk|3r|3aq|3aw|3eq|3ar|3ao|3cf|2a LA|3AT|3AG|3ANG|3AL|3LAA|3AAK|3AAJ|3AAM",
   "3AAW|3LI|3IS|3IH|3INY|3IR|3LU|3UC|=|3UNN|3UY|3LE|3EP|3EDD|3EN|3ERR|3LO|3OTT|3OB|3OV|3OH",
   "2MU TTUDDAG|2GAAHLAA TTUDDAAG|2MU-GAAHLAA TTUDDAAG|2RELAA|2PHAARKAA|2AHAD|2az MUCAAD|3l MUCAAD",
   "0iq k a ns VE|3LONG-LEGGED DE|3NARROW O|3WIDE ES|3TALL TE|3THREE-LEGGED TE|3TALL HARD f|4YAT",
   "3UNBLENDED UK|@1C90 0xj MTAVRULI c a AN|4BAN|4GAN|4DON|4EN|4VIN|4ZEN|4TAN|4IN|4KAN|4LAS|4MAN",
   "4NAR|4ON|4PAR|4ZHAR|4RAE|4SAN|4TAR|4UN|4PHAR|4KHAR|4GHAN|4QAR|4lb|4CHIN|4CAN|4JIL|4CIL|4CHAR",
   "4XAN|4JHAN|4HAE|4HE|4HIE|4WE|4HAR|4HOE|4FI|4YN|4ELIFI|4bl GAN|4te|@1CBD 4AEN|4HARD f|4LABIAL f",
   "0SUNDANESE az BINDU SURYA|3PANGLONG|3PURNAMA|3CAKRA|3LEU SATANGA|3KA SATANGA|3DA SATANGA",
   "3BA SATANGA|@1CD0 0VEDIC em KARSHANA|2SHARA|2PRENKHA|1f NIHSHVASA|2YAJURVEDIC MIDLINE ny",
   "1em YAJURVEDIC AGGRAVATED kd ny|3kd ny|3KATHAKA kd ny|2le v",
   "2YAJURVEDIC KATHAKA kd ny SCHROEDER|2l ny|2dm ny|2KATHAKA xe|2cq v|2bk cr v|2r cr v",
   "2RIGVEDIC KASHMIRI kd ny|2ATHARVAVEDIC kd ny|1f ds ny|3UDATTA|2as ds UDATTA|2ds xe|2as ds xe",
   "2ds UDATTA b he|3xe b he|2bu ANTARGOMUKHA|3BAHIRGOMUKHA|3VAMAGOMUKHA|4b he|2TIRYAK",
   "2HEXIFORM eg bu|2eg bu|2RTHANG eg bu|2bu UBHAYATO MUKHA|2ARDHAVISARGA|2bp ARDHAVISARGA",
   "1em le j|1f nv|2nw|2ATIKRAMA|1em de j|2l de j|1f l bu ANTARGOMUKHA|@1D00 0ek a k c A|4AE",
   "1k a bl AE|1a k c uk B|4C|=|4ETH|4E|1k a bl ea E|4I|1a k c J|=|4L b ad|4M|4as N|4O|4ea O",
   "1k a na O|4ea O|4O b ad|3bl OE|1a k c OU|1k a pu cc O|3ft cc O|1a k c P|4as R|4bl R|4T|=",
   "1k a na U|4DIAERESIZED U|4bl M|1a k c V|=|4Z|4EZH|2qq LARYNGEAL SPIRANT|2te|0jc a k c kh|4qg",
   "4PI|4wc|4PSI|0iq a k c EL|0dt a c A|3AE|3B|3uk B|3D|=|3as E|3G|=7|3as N|3O|3OU|3P|3R|3T|=|3W",
   "2k A|3bl A|3hf|3bl AE|3B|3D|=|3zo|3ea E|3bl ea E|3G|3bl I|3K|3M|3ENG|3O|3ea O|3pu cc O",
   "3ft cc O|3P|3T|=|3na U|3bl M|3V|3te|3sb|3jc kh|3ld|3jc wu|3yu|0ek oy k a I|4R|4U|=",
   "0jc oy k a sb|4kh|4wc|4wu|4yu|0ek k a UE|3B b af cl|3D b af cl|3F b af cl|3M b af cl",
   "3N b af cl|3P b af cl|3R b af cl|5qp s af cl|3S b af cl|3T b af cl|3Z b af cl|3bl G",
   "0dt a iq EN|0ek k a md G|3TH b STRIKETHROUGH|2c a I b ad|2a la b ad|3P b ad|2c a U b ad",
   "2a fi b ad|3B b fd be|3D b fd be|3F b fd be|3G b fd be|3K b fd be|3L b fd be|3M b fd be",
   "3N b fd be|3P b fd be|3R b fd be|3S b fd be|3ESH b fd be|3V b fd be|3X b fd be|3Z b fd be",
   "3A b by be|3hf b by be|3D b be s he|3E b by be|3ea E b by be|3as ea E b by be|3zo b by be",
   "3I b by be|3ea O b by be|3ESH b by be|3U b by be|3EZH b by be|0dt a k bl hf|3C|4b ow|3ETH",
   "3as ea E|3F|3ju J b ad|3hn G|3bl H|3I b ad|3la|3c I|5b ad|3J b il|3L b by be|5fd be|3c L",
   "3M b be|3bl M b eg LEG|3N b n be|5by be|3c N|3uk O|3wu|3S b be|3ESH|3T b fd be|3U fb|3fi|3c U",
   "3V b be|3bl V|3Z|4b by be|5ow|3EZH|3jd|0cg ev er eu|2dk eu|1SNAKE v|1SUSPENSION z",
   "1MACRON-ACUTE|1GRAVE-MACRON|1MACRON-GRAVE|1ACUTE-MACRON|1GRAVE-ACUTE-GRAVE|1ACUTE-GRAVE-ACUTE",
   "1ek k a R v|1BREVE-MACRON|1MACRON-BREVE|1l au j|1sp j|1ul v|1IS v|1UR j|1US j",
   "1ek k a FLATTENED ea A j|4AE|4AO|4AV|4C ik|4md D|4ETH|4G|2a k c G|2k a K|=|2a k c L|=|2k a N",
   "2a k c N|5R|2k a R ROTUNDA|4S|4eg S|4Z|4hf|4B|4sb|4zo|4F|4L b l af cl|4O b bn qz ad|4P|4ESH",
   "4U b bn qz ad|4W|4A b bc|4O b bc|4U b bc|1UP jr j|1KAVYKA j g|3n|1cq j n|1WIDE bf BRIDGE v",
   "1cq v n|1DELETION z|1l bf hd v|1ki bj TO v|1n ak j|1g ak s bz ak v|0ek c a A b de v|-",
   "1c a B b cq j|-|1c a B b cq v|-|1c a B b fn v|-|1c a C b ik s dk|-|1c a D b cq j|-",
   "1c a D b cq v|-|1c a D b fn v|-|1c a D b ik|-|1c a D b au v|-|1c a E b ee s er|-",
   "1c a E b ee s dk|-|1c a E b au v|-|1c a E b cl v|-|1c a E b ik s hd|-|1c a F b cq j|-",
   "1c a G b ee|-|1c a H b cq j|-|1c a H b cq v|-|1c a H b bc|-|1c a H b ik|-|1c a H b hd v|-",
   "1c a I b cl v|-|1c a I b bc s dk|-|1c a K b dk|-|1c a K b cq v|-|1c a K b fn v|-|1c a L b cq v",
   "-|1c a L b cq v s ee|-|1c a L b fn v|-|1c a L b au v|-|1c a M b dk|-|1c a M b cq j|-",
   "1c a M b cq v|-|1c a N b cq j|-|1c a N b cq v|-|1c a N b fn v|-|1c a N b au v|-",
   "1c a O b cl s dk|-|1c a O b cl s bc|-|1c a O b ee s er|-|1c a O b ee s dk|-|1c a P b dk|-",
   "1c a P b cq j|-|1c a R b cq j|-|1c a R b cq v|-|1c a R b cq v s ee|-|1c a R b fn v|-",
   "1c a S b cq j|-|1c a S b cq v|-|1c a S b dk s cq j|-|1c a S b iy s cq j|-|1c a S b cq v s cq j",
   "-|1c a T b cq j|-|1c a T b cq v|-|1c a T b fn v|-|1c a T b au v|-|1c a U b bc v|-",
   "1c a U b cl v|-|1c a U b au v|-|1c a U b cl s dk|-|1c a U b ee s bc|-|1c a V b cl|-",
   "1c a V b cq v|-|1c a W b er|-|1c a W b dk|-|1c a W b bc|-|1c a W b cq j|-|1c a W b cq v|-",
   "1c a X b cq j|-|1c a X b bc|-|1c a Y b cq j|-|1c a Z b au|-|1c a Z b cq v|-|1c a Z b fn v|-",
   "3H b fn v|3T b bc|3W b de j|3Y b de j|3A b g cc de|3eg S b cq j|6co ad|6es ad|1c a SHARP S",
   "1k a ld|1c a A b cq v|-|1c a A b be j|-|1c a A b au s dk|-|1c a A b au s er|-",
   "1c a A b au s be j|-|1c a A b au s cl|-|1c a A b au s cq v|-|1c a A b hd s dk|-",
   "1c a A b hd s er|-|1c a A b hd s be j|-|1c a A b hd s cl|-|1c a A b hd s cq v|-|1c a E b cq v",
   "-|1c a E b be j|-|1c a E b cl|-|1c a E b au s dk|-|1c a E b au s er|-|1c a E b au s be j|-",
   "1c a E b au s cl|-|1c a E b au s cq v|-|1c a I b be j|-|1c a I b cq v|-|1c a O b cq v|-",
   "1c a O b be j|-|1c a O b au s dk|-|1c a O b au s er|-|1c a O b au s be j|-|1c a O b au s cl|-",
   "1c a O b au s cq v|-|1c a O b ov s dk|-|1c a O b ov s er|-|1c a O b ov s be j|-",
   "1c a O b ov s cl|-|1c a O b ov s cq v|-|1c a U b cq v|-|1c a U b be j|-|1c a U b ov s dk|-",
   "1c a U b ov s er|-|1c a U b ov s be j|-|1c a U b ov s cl|-|1c a U b ov s cq v|-|1c a Y b er|-",
   "1c a Y b cq v|-|1c a Y b be j|-|1c a Y b cl|-|1c a MIDDLE-WELSH LL|-|1c a MIDDLE-WELSH V|-",
   "1c a Y b sz|-|0jc k a hf b cu|5ct|5cu s dl|5ct s dl|5cu s fw|5ct s fw|5cu s ax|5ct s ax",
   "1c a hf b cu|5ct|5cu s dl|5ct s dl|5cu s fw|5ct s fw|5cu s ax|5ct s ax|1k a fr b cu|5ct",
   "5cu s dl|5ct s dl|5cu s fw|5ct s fw|@1F18 1c a fr b cu|5ct|5cu s dl|5ct s dl|5cu s fw|5ct s fw",
   "@1F20 1k a ETA b cu|5ct|5cu s dl|5ct s dl|5cu s fw|5ct s fw|5cu s ax|5ct s ax|1c a ETA b cu",
   "5ct|5cu s dl|5ct s dl|5cu s fw|5ct s fw|5cu s ax|5ct s ax|1k a la b cu|5ct|5cu s dl|5ct s dl",
   "5cu s fw|5ct s fw|5cu s ax|5ct s ax|1c a la b cu|5ct|5cu s dl|5ct s dl|5cu s fw|5ct s fw",
   "5cu s ax|5ct s ax|1k a hy b cu|5ct|5cu s dl|5ct s dl|5cu s fw|5ct s fw|@1F48 1c a hy b cu|5ct",
   "5cu s dl|5ct s dl|5cu s fw|5ct s fw|@1F50 1k a fi b cu|5ct|5cu s dl|5ct s dl|5cu s fw|5ct s fw",
   "5cu s ax|5ct s ax|@1F59 1c a fi b ct|@1F5B 6s dl|@1F5D 7fw|@1F5F 7ax|1k a hg b cu|5ct|5cu s dl",
   "5ct s dl|5cu s fw|5ct s fw|5cu s ax|5ct s ax|1c a hg b cu|5ct|5cu s dl|5ct s dl|5cu s fw",
   "5ct s fw|5cu s ax|5ct s ax|1k a hf b dl|5fw|3fr b dl|5fw|3ETA b dl|5fw|3la b dl|5fw|3hy b dl",
   "5fw|3fi b dl|5fw|3hg b dl|5fw|@1F80 3hf b cu s av|5ct s av|5cu s dl s av|5ct s dl s av",
   "5cu s fw s av|5ct s fw s av|5cu s ax s av|5ct s ax s av|1c a hf b cu s bh|5ct s bh",
   "5cu s dl s bh|5ct s dl s bh|5cu s fw s bh|5ct s fw s bh|5cu s ax s bh|5ct s ax s bh",
   "1k a ETA b cu s av|5ct s av|5cu s dl s av|5ct s dl s av|5cu s fw s av|5ct s fw s av",
   "5cu s ax s av|5ct s ax s av|1c a ETA b cu s bh|5ct s bh|5cu s dl s bh|5ct s dl s bh",
   "5cu s fw s bh|5ct s fw s bh|5cu s ax s bh|5ct s ax s bh|1k a hg b cu s av|5ct s av",
   "5cu s dl s av|5ct s dl s av|5cu s fw s av|5ct s fw s av|5cu s ax s av|5ct s ax s av",
   "1c a hg b cu s bh|5ct s bh|5cu s dl s bh|5ct s dl s bh|5cu s fw s bh|5ct s fw s bh",
   "5cu s ax s bh|5ct s ax s bh|1k a hf b VRACHY|5ee|5dl s av|5av|5fw s av|@1FB6 5ax|6s av",
   "1c a hf b VRACHY|5ee|5dl|5fw|5bh|1KORONIS|1bh|1cu|1ax|1ho s ax|1k a ETA b dl s av|5av|5fw s av",
   "@1FC6 5ax|6s av|1c a fr b dl|5fw|3ETA b dl|5fw|5bh|1cu s dl|3fw|3ax|1k a la b VRACHY|5ee",
   "5ho s dl|7fw|@1FD6 5ax|5ho s ax|1c a la b VRACHY|5ee|5dl|5fw|@1FDD 1ct s dl|3fw|3ax",
   "1k a fi b VRACHY|5ee|5ho s dl|7fw|3wc b cu|5ct|3fi b ax|5ho s ax|1c a fi b VRACHY|5ee|5dl|5fw",
   "3wc b ct|1ho s dl|3fw|1dl|@1FF2 1k a hg b dl s av|5av|5fw s av|@1FF6 5ax|6s av|1c a hy b dl",
   "5fw|3hg b dl|5fw|5bh|1fw|1ct"]

end CodeLint.Text
