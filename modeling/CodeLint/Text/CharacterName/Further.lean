/-!
Further names of characters: of control characters, which have no others, abbreviations, and
corrections. The entries are explained where the names are looked up.
-/

namespace CodeLint.Text

set_option maxRecDepth 20000

def furtherNames : List String :=
  ["@0 0NUL|@0 0NULL|0SOH|@1 0zt OF HEADING|2TEXT|@2 0STX|0qr OF TEXT|@3 0ETX|0qr OF tq|@4 0EOT",
   "0ENQ|@5 0ENQUIRY|0ACK|@6 0vv|0ALERT|@7 0BEL|0BACKSPACE|@8 0BS|0gt hu|@9 0x hu|@9 0HT|@9 0TAB",
   "0qr OF fn|@A 0EOL|@A 0LF|@A 0fn FEED|@A 0NEW fn|@A 0NL|0fn hu|@B 0p hu|@B 0VT|0FF|@C 0d FEED",
   "0CARRIAGE RETURN|@D 0CR|0LOCKING-SHIFT bq|@E 0SHIFT OUT|@E 0SO|0LOCKING-SHIFT do|@F 0SHIFT IN",
   "@F 0SI|0DATA LINK ESCAPE|@10 0DLE|0DC1|@11 0DEVICE pz bq|0DC2|@12 0DEVICE pz bk|0DC3",
   "@13 0DEVICE pz r|0DC4|@14 0DEVICE pz aq|0NAK|@15 0hs vv|0SYN|@16 0SYNCHRONOUS IDLE",
   "0qr OF tq dp|@17 0ETB|0CAN|@18 0CANCEL|0qr OF ba|@19 0EOM|0SUB|@1A 0SUBSTITUTE|0ESC",
   "@1B 0ESCAPE|0FILE cy|@1C 0FS|@1C 0oa cy aq|0GROUP cy|@1D 0GS|@1D 0oa cy r|2bk|@1E 0RECORD cy",
   "@1E 0RS|0oa cy bq|@1F 0UNIT cy|@1F 0US|0SP|@7F 0DEL|@7F 0DELETE|0PAD|@80 0PADDING gt",
   "0es OCTET PRESET|@81 0HOP|0BPH|@82 0BREAK PERMITTED HERE|0NBH|@83 0NO BREAK HERE|0IND|@84 0bi",
   "0NEL|@85 0NEXT fn|0pv|@86 0zt OF SELECTED AREA|0qr OF SELECTED AREA|@87 0ESA|0gt hu SET",
   "@88 0x hu SET|@88 0HTS|0gt hu b JUSTIFICATION|@89 0x hu b JUSTIFICATION|@89 0HTJ|0fn hu SET",
   "@8A 0p hu SET|@8A 0VTS|0rw fn bz|@8B 2hz|@8B 0PLD|0rw fn BACKWARD|@8C 2UP|@8C 0PLU|0gr bi",
   "@8D 1fn FEED|@8D 0RI|0bv SHIFT bk|@8E 0SINGLE-SHIFT-2|@8E 0SS2|0bv SHIFT r|@8F 0SINGLE-SHIFT-3",
   "@8F 0SS3|0DCS|@90 0DEVICE pz STRING|0PRIVATE USE bq|@91 1USE-1|@91 0PU1|0PRIVATE USE bk",
   "@92 1USE-2|@92 0PU2|0SET TRANSMIT STATE|@93 0STS|0CANCEL gt|@94 0CCH|0MESSAGE WAITING|@95 0MW",
   "0SPA|@96 0zt OF GUARDED AREA|@96 2PROTECTED AREA|0qr OF GUARDED AREA|@97 2PROTECTED AREA",
   "@97 0EPA|0SOS|@98 0zt OF STRING|0SGC|@99 0bv GRAPHIC gt INTRODUCER|0SCI|@9A 0bv gt INTRODUCER",
   "0pz SEQUENCE INTRODUCER|@9B 0CSI|0ST|@9C 0STRING TERMINATOR|0OPERATING SYSTEM COMMAND|@9D 0OSC",
   "0PM|@9E 0PRIVACY MESSAGE|0APC|@9F 0APPLICATION PROGRAM COMMAND|0NBSP|@AD 0SHY|@1A2 0ek c a nn",
   "-|@34F 0CGJ|@61C 0ALM|@709 0SYRIAC zu hl SKEWED n|@CDE 0KANNADA a LLLA|@E9D 0LAO a FO FON",
   "@E9F 3FAY|@EA3 2RO|@EA5 2LO|@FD0 0TIBETAN z BKA- SHOG GI MGO RGYAN",
   "@11EC 0qy JONGSEONG YESIEUNG-KIYEOK|2YESIEUNG-SSANGKIYEOK|2SSANGYESIEUNG|2YESIEUNG-KHIEUKH",
   "@180B 0FVS1|+2|0MVS|0FVS4|@200B 0ZWSP|0ZWNJ|0ZWJ|0LRM|0RLM|@202A 0LRE|0RLE|0PDF|0LRO|0RLO",
   "0NNBSP|@205F 0MMSP|0WJ|@2066 0LRI|0RLI|0FSI|0PDI|@2118 0WEIERSTRASS ELLIPTIC FUNCTION",
   "@2448 0MICR ON US u|1ig u|@2B7A 0o t e b l p ad|@2B7C 0i t e b l p ad|@A015 0YI hh ke z",
   "@AA6E 0MYANMAR a KHAMTI vk|@FE00 0VS1|+15|@FE18 0ty d qk p g y jy ae|@FEFF 0BOM",
   "@FEFF 0BYTE ORDER z|@FEFF 0ZWNBSP|@122D4 0CUNEIFORM f NU11 ih|3cs NU11 BUR cs BUR",
   "@16E56 0MEDEFAIDRIN c a H|3NG|@16E76 1k a H|3NG|@1B001 0HENTAIGANA a E-1",
   "@1D0C5 0BYZANTINE kl u FTHORA SKLIRON CHROMA VASIS|@E0100 0VS17|+239"]

end CodeLint.Text
