/-! Names of letters and marks of the scripts of Tibet, Mongolia and southeast Asia. A row has the
code of its first character, what its names start with, and their ends with slashes between them. -/

namespace Linting.Unicode.Name
set_option autoImplicit false

def easternRows : List (Nat × String × List String) := [
  (0xE01, "THAI CHARACTER ",
    ["KO KAI/KHO KHAI/KHO KHUAT/KHO KHWAI/KHO KHON/KHO RAKHANG/NGO NGU/CHO CHAN/CHO CHING",
      "CHO CHANG/SO SO/CHO CHOE/YO YING/DO CHADA/TO PATAK/THO THAN/THO NANGMONTHO/THO PHUTHAO",
      "NO NEN/DO DEK/TO TAO/THO THUNG/THO THAHAN/THO THONG/NO NU/BO BAIMAI/PO PLA/PHO PHUNG",
      "FO FA/PHO PHAN/FO FAN/PHO SAMPHAO/MO MA/YO YAK/RO RUA/RU/LO LING/LU/WO WAEN/SO SALA",
      "SO RUSI/SO SUA/HO HIP/LO CHULA/O ANG/HO NOKHUK/PAIYANNOI/SARA A/MAI HAN-AKAT/SARA AA",
      "SARA AM/SARA I/SARA II/SARA UE/SARA UEE/SARA U/SARA UU/PHINTHU"]),
  (0xE3F, "THAI CURRENCY SYMBOL ", ["BAHT"]),
  (0xE40, "THAI CHARACTER ",
    ["SARA E/SARA AE/SARA O/SARA AI MAIMUAN/SARA AI MAIMALAI/LAKKHANGYAO/MAIYAMOK/MAITAIKHU",
      "MAI EK/MAI THO/MAI TRI/MAI CHATTAWA/THANTHAKHAT/NIKHAHIT/YAMAKKAN/FONGMAN"]),
  (0xE50, "THAI DIGIT ", ["ZERO/ONE/TWO/THREE/FOUR/FIVE/SIX/SEVEN/EIGHT/NINE"]),
  (0xE5A, "THAI CHARACTER ", ["ANGKHANKHU/KHOMUT"]),
  (0xE81, "LAO LETTER ", ["KO/KHO SUNG"]),
  (0xE84, "LAO LETTER KHO ", ["TAM"]),
  (0xE86, "LAO LETTER ", ["PALI GHA/NGO/CO/PALI CHA/SO TAM"]),
  (0xE8C, "LAO LETTER ",
    ["PALI JHA/NYO/PALI NYA/PALI TTA/PALI TTHA/PALI DDA/PALI DDHA/PALI NNA/DO/TO/THO SUNG",
      "THO TAM/PALI DHA/NO/BO/PO/PHO SUNG/FO TAM/PHO TAM/FO SUNG/PALI BHA/MO/YO/LO LING"]),
  (0xEA5, "LAO LETTER LO ", ["LOOT"]),
  (0xEA7, "LAO LETTER ", ["WO/SANSKRIT SHA/SANSKRIT SSA/SO SUNG/HO SUNG/PALI LLA/O/HO TAM"]),
  (0xEAF, "LAO ", ["ELLIPSIS"]),
  (0xEB0, "LAO VOWEL SIGN ", ["A/MAI KAN/AA/AM/I/II/Y/YY/U/UU"]),
  (0xEBA, "LAO ", ["SIGN PALI VIRAMA/VOWEL SIGN MAI KON/SEMIVOWEL SIGN LO/SEMIVOWEL SIGN NYO"]),
  (0xEC0, "LAO VOWEL SIGN ", ["E/EI/O/AY/AI"]),
  (0xEC6, "LAO KO ", ["LA"]),
  (0xEC8, "LAO ",
    ["TONE MAI EK/TONE MAI THO/TONE MAI TI/TONE MAI CATAWA/CANCELLATION MARK/NIGGAHITA"]),
  (0xED0, "LAO DIGIT ", ["ZERO/ONE/TWO/THREE/FOUR/FIVE/SIX/SEVEN/EIGHT/NINE"]),
  (0xEDC, "LAO ", ["HO NO/HO MO/LETTER KHMU GO/LETTER KHMU NYO"]),
  (0xF00, "TIBETAN SYLLABLE ", ["OM"]),
  (0xF01, "TIBETAN MARK ",
    ["GTER YIG MGO TRUNCATED A/GTER YIG MGO -UM RNAM BCAD MA/GTER YIG MGO -UM GTER TSHEG MA",
      "INITIAL YIG MGO MDUN MA/CLOSING YIG MGO SGAB MA/CARET YIG MGO PHUR SHAD MA",
      "YIG MGO TSHEG SHAD MA/SBRUL SHAD/BSKUR YIG MGO/BKA- SHOG YIG MGO/INTERSYLLABIC TSHEG",
      "DELIMITER TSHEG BSTAR/SHAD/NYIS SHAD/TSHEG SHAD/NYIS TSHEG SHAD/RIN CHEN SPUNGS SHAD",
      "RGYA GRAM SHAD/CARET -DZUD RTAGS ME LONG CAN/GTER TSHEG"]),
  (0xF15, "TIBETAN LOGOTYPE SIGN ", ["CHAD RTAGS/LHAG RTAGS"]),
  (0xF17, "TIBETAN ASTROLOGICAL SIGN ", ["SGRA GCAN -CHAR RTAGS/-KHYUD PA/SDONG TSHUGS"]),
  (0xF1A, "TIBETAN SIGN RDEL ",
    ["DKAR GCIG/DKAR GNYIS/DKAR GSUM/NAG GCIG/NAG GNYIS/DKAR RDEL NAG"]),
  (0xF20, "TIBETAN DIGIT ", ["ZERO/ONE/TWO/THREE/FOUR/FIVE/SIX/SEVEN/EIGHT/NINE"]),
  (0xF2A, "TIBETAN DIGIT HALF ", ["ONE/TWO/THREE/FOUR/FIVE/SIX/SEVEN/EIGHT/NINE/ZERO"]),
  (0xF34, "TIBETAN MARK ",
    ["BSDUS RTAGS/NGAS BZUNG NYI ZLA/CARET -DZUD RTAGS BZHI MIG CAN/NGAS BZUNG SGOR RTAGS",
      "CHE MGO/TSA -PHRU/GUG RTAGS GYON/GUG RTAGS GYAS/ANG KHANG GYON/ANG KHANG GYAS"]),
  (0xF3E, "TIBETAN SIGN ", ["YAR TSHES/MAR TSHES"]),
  (0xF40, "TIBETAN LETTER ", ["KA/KHA/GA/GHA/NGA/CA/CHA/JA"]),
  (0xF49, "TIBETAN LETTER ",
    ["NYA/TTA/TTHA/DDA/DDHA/NNA/TA/THA/DA/DHA/NA/PA/PHA/BA/BHA/MA/TSA/TSHA/DZA/DZHA/WA/ZHA/ZA",
      "-A/YA/RA/LA/SHA/SSA/SA/HA/A/KSSA/FIXED-FORM RA/KKA/RRA"]),
  (0xF71, "TIBETAN VOWEL SIGN ",
    ["AA/I/II/U/UU/VOCALIC R/VOCALIC RR/VOCALIC L/VOCALIC LL/E/EE/O/OO"]),
  (0xF7E, "TIBETAN ",
    ["SIGN RJES SU NGA RO/SIGN RNAM BCAD/VOWEL SIGN REVERSED I/VOWEL SIGN REVERSED II",
      "SIGN NYI ZLA NAA DA/SIGN SNA LDAN/MARK HALANTA/MARK PALUTA/SIGN LCI RTAGS/SIGN YANG RTAGS",
      "SIGN LCE TSA CAN/SIGN MCHU CAN/SIGN GRU CAN RGYINGS/SIGN GRU MED RGYINGS",
      "SIGN INVERTED MCHU CAN/SUBJOINED SIGN LCE TSA CAN/SUBJOINED SIGN MCHU CAN",
      "SUBJOINED SIGN INVERTED MCHU CAN"]),
  (0xF90, "TIBETAN SUBJOINED LETTER ", ["KA/KHA/GA/GHA/NGA/CA/CHA/JA"]),
  (0xF99, "TIBETAN SUBJOINED LETTER ",
    ["NYA/TTA/TTHA/DDA/DDHA/NNA/TA/THA/DA/DHA/NA/PA/PHA/BA/BHA/MA/TSA/TSHA/DZA/DZHA/WA/ZHA/ZA",
      "-A/YA/RA/LA/SHA/SSA/SA/HA/A/KSSA/FIXED-FORM WA/FIXED-FORM YA/FIXED-FORM RA"]),
  (0xFBE, "TIBETAN KU RU ", ["KHA/KHA BZHI MIG CAN"]),
  (0xFC0, "TIBETAN CANTILLATION SIGN ", ["HEAVY BEAT/LIGHT BEAT/CANG TE-U/SBUB -CHAL"]),
  (0xFC4, "TIBETAN SYMBOL ",
    ["DRIL BU/RDO RJE/PADMA GDAN/RDO RJE RGYA GRAM/PHUR PA/NOR BU/NOR BU NYIS -KHYIL",
      "NOR BU GSUM -KHYIL/NOR BU BZHI -KHYIL"]),
  (0xFCE, "TIBETAN SIGN RDEL NAG ", ["RDEL DKAR/GSUM"]),
  (0xFD0, "TIBETAN MARK ",
    ["BSKA- SHOG GI MGO RGYAN/MNYAM YIG GI MGO RGYAN/NYIS TSHEG",
      "INITIAL BRDA RNYING YIG MGO MDUN MA/CLOSING BRDA RNYING YIG MGO SGAB MA"]),
  (0xFD5, "",
    ["RIGHT-FACING SVASTI SIGN/LEFT-FACING SVASTI SIGN/RIGHT-FACING SVASTI SIGN WITH DOTS",
      "LEFT-FACING SVASTI SIGN WITH DOTS/TIBETAN MARK LEADING MCHAN RTAGS",
      "TIBETAN MARK TRAILING MCHAN RTAGS"]),
  (0x1000, "MYANMAR LETTER ",
    ["KA/KHA/GA/GHA/NGA/CA/CHA/JA/JHA/NYA/NNYA/TTA/TTHA/DDA/DDHA/NNA/TA/THA/DA/DHA/NA/PA/PHA/BA",
      "BHA/MA/YA/RA/LA/WA/SA/HA/LLA/A/SHAN A/I/II/U/UU/E/MON E/O/AU"]),
  (0x102B, "MYANMAR VOWEL SIGN ", ["TALL AA/AA/I/II/U/UU/E/AI/MON II/MON O/E ABOVE"]),
  (0x1036, "MYANMAR SIGN ", ["ANUSVARA/DOT BELOW/VISARGA/VIRAMA/ASAT"]),
  (0x103B, "MYANMAR CONSONANT SIGN MEDIAL ", ["YA/RA/WA/HA"]),
  (0x103F, "MYANMAR ",
    ["LETTER GREAT SA/DIGIT ZERO/DIGIT ONE/DIGIT TWO/DIGIT THREE/DIGIT FOUR/DIGIT FIVE",
      "DIGIT SIX/DIGIT SEVEN/DIGIT EIGHT/DIGIT NINE/SIGN LITTLE SECTION/SIGN SECTION",
      "SYMBOL LOCATIVE/SYMBOL COMPLETED/SYMBOL AFOREMENTIONED/SYMBOL GENITIVE/LETTER SHA",
      "LETTER SSA"]),
  (0x1052, "MYANMAR LETTER VOCALIC ", ["R/RR/L/LL"]),
  (0x1056, "MYANMAR VOWEL SIGN VOCALIC ", ["R/RR/L/LL"]),
  (0x105A, "MYANMAR LETTER MON ", ["NGA/JHA/BBA/BBE"]),
  (0x105E, "MYANMAR CONSONANT SIGN MON MEDIAL ", ["NA/MA/LA"]),
  (0x1061, "MYANMAR ",
    ["LETTER SGAW KAREN SHA/VOWEL SIGN SGAW KAREN EU/TONE MARK SGAW KAREN HATHI",
      "TONE MARK SGAW KAREN KE PHO/LETTER WESTERN PWO KAREN THA/LETTER WESTERN PWO KAREN PWA",
      "VOWEL SIGN WESTERN PWO KAREN EU/VOWEL SIGN WESTERN PWO KAREN UE"]),
  (0x1069, "MYANMAR SIGN WESTERN PWO KAREN TONE-", ["1/2/3/4/5"]),
  (0x106E, "MYANMAR LETTER EASTERN PWO KAREN ", ["NNA/YWA/GHWA"]),
  (0x1071, "MYANMAR VOWEL SIGN ", ["GEBA KAREN I/KAYAH OE/KAYAH U/KAYAH EE"]),
  (0x1075, "MYANMAR LETTER SHAN ", ["KA/KHA/GA/CA/ZA/NYA/DA/NA/PHA/FA/BA/THA/HA"]),
  (0x1082, "MYANMAR CONSONANT SIGN SHAN MEDIAL ", ["WA"]),
  (0x1083, "MYANMAR VOWEL SIGN SHAN ", ["AA/E/E ABOVE/FINAL Y"]),
  (0x1087, "MYANMAR SIGN SHAN ",
    ["TONE-2/TONE-3/TONE-5/TONE-6/COUNCIL TONE-2/COUNCIL TONE-3/COUNCIL EMPHATIC TONE"]),
  (0x108E, "MYANMAR ", ["LETTER RUMAI PALAUNG FA/SIGN RUMAI PALAUNG TONE-5"]),
  (0x1090, "MYANMAR SHAN DIGIT ", ["ZERO/ONE/TWO/THREE/FOUR/FIVE/SIX/SEVEN/EIGHT/NINE"]),
  (0x109A, "MYANMAR ",
    ["SIGN KHAMTI TONE-1/SIGN KHAMTI TONE-3/VOWEL SIGN AITON A/VOWEL SIGN AITON AI",
      "SYMBOL SHAN ONE/SYMBOL SHAN EXCLAMATION"]),
  (0x1700, "TAGALOG LETTER ", ["A/I/U/KA/GA/NGA/TA/DA/NA/PA/BA/MA/YA/RA/LA/WA/SA/HA"]),
  (0x1712, "TAGALOG ", ["VOWEL SIGN I/VOWEL SIGN U/SIGN VIRAMA/SIGN PAMUDPOD"]),
  (0x171F, "TAGALOG LETTER ARCHAIC ", ["RA"]),
  (0x1740, "BUHID LETTER ", ["A/I/U/KA/GA/NGA/TA/DA/NA/PA/BA/MA/YA/RA/LA/WA/SA/HA"]),
  (0x1752, "BUHID VOWEL SIGN ", ["I/U"]),
  (0x1760, "TAGBANWA LETTER ", ["A/I/U/KA/GA/NGA/TA/DA/NA/PA/BA/MA/YA"]),
  (0x176E, "TAGBANWA LETTER ", ["LA/WA/SA"]),
  (0x1772, "TAGBANWA VOWEL SIGN ", ["I/U"]),
  (0x1780, "KHMER LETTER ",
    ["KA/KHA/KO/KHO/NGO/CA/CHA/CO/CHO/NYO/DA/TTHA/DO/TTHO/NNO/TA/THA/TO/THO/NO/BA/PHA/PO/PHO/MO",
      "YO/RO/LO/VO/SHA/SSO/SA/HA/LA/QA"]),
  (0x17A3, "KHMER INDEPENDENT VOWEL ",
    ["QAQ/QAA/QI/QII/QU/QUK/QUU/QUUV/RY/RYY/LY/LYY/QE/QAI/QOO TYPE ONE/QOO TYPE TWO/QAU"]),
  (0x17B4, "KHMER VOWEL INHERENT ", ["AQ/AA"]),
  (0x17B6, "KHMER VOWEL SIGN ", ["AA/I/II/Y/YY/U/UU/UA/OE/YA/IE/E/AE/AI/OO/AU"]),
  (0x17C6, "KHMER SIGN ",
    ["NIKAHIT/REAHMUK/YUUKALEAPINTU/MUUSIKATOAN/TRIISAP/BANTOC/ROBAT/TOANDAKHIAT/KAKABAT/AHSDA",
      "SAMYOK SANNYA/VIRIAM/COENG/BATHAMASAT/KHAN/BARIYOOSAN/CAMNUC PII KUUH/LEK TOO/BEYYAL",
      "PHNAEK MUAN/KOOMUUT"]),
  (0x17DB, "KHMER ", ["CURRENCY SYMBOL RIEL/SIGN AVAKRAHASANYA/SIGN ATTHACAN"]),
  (0x17E0, "KHMER DIGIT ", ["ZERO/ONE/TWO/THREE/FOUR/FIVE/SIX/SEVEN/EIGHT/NINE"]),
  (0x17F0, "KHMER SYMBOL LEK ATTAK ",
    ["SON/MUOY/PII/BEI/BUON/PRAM/PRAM-MUOY/PRAM-PII/PRAM-BEI/PRAM-BUON"]),
  (0x1800, "MONGOLIAN ",
    ["BIRGA/ELLIPSIS/COMMA/FULL STOP/COLON/FOUR DOTS/TODO SOFT HYPHEN",
      "SIBE SYLLABLE BOUNDARY MARKER/MANCHU COMMA/MANCHU FULL STOP/NIRUGU",
      "FREE VARIATION SELECTOR ONE/FREE VARIATION SELECTOR TWO/FREE VARIATION SELECTOR THREE",
      "VOWEL SEPARATOR/FREE VARIATION SELECTOR FOUR"]),
  (0x1810, "MONGOLIAN DIGIT ", ["ZERO/ONE/TWO/THREE/FOUR/FIVE/SIX/SEVEN/EIGHT/NINE"]),
  (0x1820, "MONGOLIAN LETTER ",
    ["A/E/I/O/U/OE/UE/EE/NA/ANG/BA/PA/QA/GA/MA/LA/SA/SHA/TA/DA/CHA/JA/YA/RA/WA/FA/KA/KHA/TSA/ZA",
      "HAA/ZRA/LHA/ZHI/CHI"]),
  (0x1843, "MONGOLIAN LETTER TODO ",
    ["LONG VOWEL SIGN/E/I/O/U/OE/UE/ANG/BA/PA/QA/GA/MA/TA/DA/CHA/JA/TSA/YA/WA/KA/GAA/HAA/JIA",
      "NIA/DZA"]),
  (0x185D, "MONGOLIAN LETTER SIBE ",
    ["E/I/IY/UE/U/ANG/KA/GA/HA/PA/SHA/TA/DA/JA/FA/GAA/HAA/TSA/ZA/RAA/CHA/ZHA"]),
  (0x1873, "MONGOLIAN LETTER ",
    ["MANCHU I/MANCHU KA/MANCHU RA/MANCHU FA/MANCHU ZHA/CHA WITH TWO DOTS"]),
  (0x1880, "MONGOLIAN LETTER ALI GALI ",
    ["ANUSVARA ONE/VISARGA ONE/DAMARU/UBADAMA/INVERTED UBADAMA/BALUDA/THREE BALUDA/A/I/KA/NGA",
      "CA/TTA/TTHA/DDA/NNA/TA/DA/PA/PHA/SSA/ZHA/ZA/AH"]),
  (0x1898, "MONGOLIAN LETTER TODO ALI GALI ", ["TA/ZHA"]),
  (0x189A, "MONGOLIAN LETTER MANCHU ALI GALI ", ["GHA/NGA/CA/JHA/TTA/DDHA/TA/DHA/SSA/CYA/ZHA/ZA"]),
  (0x18A6, "MONGOLIAN LETTER ",
    ["ALI GALI HALF U/ALI GALI HALF YA/MANCHU ALI GALI BHA/ALI GALI DAGALGA/MANCHU ALI GALI LHA"]),
  (0x1950, "TAI LE LETTER ",
    ["KA/XA/NGA/TSA/SA/YA/TA/THA/LA/PA/PHA/MA/FA/VA/HA/QA/KHA/TSHA/NA/A/I/EE/EH/U/OO/O/UE/E/AUE",
      "AI"]),
  (0x1970, "TAI LE LETTER TONE-", ["2/3/4/5/6"]),
  (0x1980, "NEW TAI LUE LETTER ",
    ["HIGH QA/LOW QA/HIGH KA/HIGH XA/HIGH NGA/LOW KA/LOW XA/LOW NGA/HIGH TSA/HIGH SA/HIGH YA",
      "LOW TSA/LOW SA/LOW YA/HIGH TA/HIGH THA/HIGH NA/LOW TA/LOW THA/LOW NA/HIGH PA/HIGH PHA",
      "HIGH MA/LOW PA/LOW PHA/LOW MA/HIGH FA/HIGH VA/HIGH LA/LOW FA/LOW VA/LOW LA/HIGH HA",
      "HIGH DA/HIGH BA/LOW HA/LOW DA/LOW BA/HIGH KVA/HIGH XVA/LOW KVA/LOW XVA/HIGH SUA/LOW SUA"]),
  (0x19B0, "NEW TAI LUE VOWEL SIGN ",
    ["VOWEL SHORTENER/AA/II/U/UU/E/AE/O/OA/UE/AY/AAY/UY/OY/OAY/UEY/IY"]),
  (0x19C1, "NEW TAI LUE LETTER FINAL ", ["V/NG/N/M/K/D/B"]),
  (0x19C8, "NEW TAI LUE TONE MARK-", ["1/2"]),
  (0x19D0, "NEW TAI LUE DIGIT ", ["ZERO/ONE/TWO/THREE/FOUR/FIVE/SIX/SEVEN/EIGHT/NINE"]),
  (0x19DA, "NEW TAI LUE THAM DIGIT ", ["ONE"]),
  (0x19DE, "NEW TAI LUE SIGN ", ["LAE/LAEV"]),
  (0x19E0, "KHMER SYMBOL ",
    ["PATHAMASAT/MUOY KOET/PII KOET/BEI KOET/BUON KOET/PRAM KOET/PRAM-MUOY KOET/PRAM-PII KOET",
      "PRAM-BEI KOET/PRAM-BUON KOET/DAP KOET/DAP-MUOY KOET/DAP-PII KOET/DAP-BEI KOET",
      "DAP-BUON KOET/DAP-PRAM KOET/TUTEYASAT/MUOY ROC/PII ROC/BEI ROC/BUON ROC/PRAM ROC",
      "PRAM-MUOY ROC/PRAM-PII ROC/PRAM-BEI ROC/PRAM-BUON ROC/DAP ROC/DAP-MUOY ROC/DAP-PII ROC",
      "DAP-BEI ROC/DAP-BUON ROC/DAP-PRAM ROC"]),
  (0x1A00, "BUGINESE LETTER ",
    ["KA/GA/NGA/NGKA/PA/BA/MA/MPA/TA/DA/NA/NRA/CA/JA/NYA/NYCA/YA/RA/LA/VA/SA/A/HA"]),
  (0x1A17, "BUGINESE VOWEL SIGN ", ["I/U/E/O/AE"]),
  (0x1A1E, "BUGINESE ", ["PALLAWA/END OF SECTION"]),
  (0x1A20, "TAI THAM LETTER ",
    ["HIGH KA/HIGH KHA/HIGH KXA/LOW KA/LOW KXA/LOW KHA/NGA/HIGH CA/HIGH CHA/LOW CA/LOW SA",
      "LOW CHA/NYA/RATA/HIGH RATHA/DA/LOW RATHA/RANA/HIGH TA/HIGH THA/LOW TA/LOW THA/NA/BA",
      "HIGH PA/HIGH PHA/HIGH FA/LOW PA/LOW FA/LOW PHA/MA/LOW YA/HIGH YA/RA/RUE/LA/LUE/WA",
      "HIGH SHA/HIGH SSA/HIGH SA/HIGH HA/LLA/A/LOW HA/I/II/U/UU/EE/OO/LAE/GREAT SA"]),
  (0x1A55, "TAI THAM ",
    ["CONSONANT SIGN MEDIAL RA/CONSONANT SIGN MEDIAL LA/CONSONANT SIGN LA TANG LAI",
      "SIGN MAI KANG LAI"]),
  (0x1A59, "TAI THAM CONSONANT SIGN ", ["FINAL NGA/LOW PA/HIGH RATHA OR LOW PA/MA/BA/SA"]),
  (0x1A60, "TAI THAM SIGN ", ["SAKOT"]),
  (0x1A61, "TAI THAM VOWEL SIGN ",
    ["A/MAI SAT/AA/TALL AA/I/II/UE/UUE/U/UU/O/OA BELOW/OY/E/AE/OO/AI/THAM AI/OA ABOVE"]),
  (0x1A74, "TAI THAM SIGN ",
    ["MAI KANG/TONE-1/TONE-2/KHUEN TONE-3/KHUEN TONE-4/KHUEN TONE-5/RA HAAM/MAI SAM",
      "KHUEN-LUE KARAN"]),
  (0x1A7F, "TAI THAM COMBINING CRYPTOGRAMMIC ", ["DOT"]),
  (0x1A80, "TAI THAM HORA DIGIT ", ["ZERO/ONE/TWO/THREE/FOUR/FIVE/SIX/SEVEN/EIGHT/NINE"]),
  (0x1A90, "TAI THAM THAM DIGIT ", ["ZERO/ONE/TWO/THREE/FOUR/FIVE/SIX/SEVEN/EIGHT/NINE"]),
  (0x1AA0, "TAI THAM SIGN ",
    ["WIANG/WIANGWAAK/SAWAN/KEOW/HOY/DOKMAI/REVERSED ROTATED RANA/MAI YAMOK/KAAN/KAANKUU",
      "SATKAAN/SATKAANKUU/HANG/CAANG"]),
  (0x1B00, "BALINESE SIGN ", ["ULU RICEM/ULU CANDRA/CECEK/SURANG/BISAH"]),
  (0x1B05, "BALINESE LETTER ",
    ["AKARA/AKARA TEDUNG/IKARA/IKARA TEDUNG/UKARA/UKARA TEDUNG/RA REPA/RA REPA TEDUNG/LA LENGA",
      "LA LENGA TEDUNG/EKARA/AIKARA/OKARA/OKARA TEDUNG/KA/KA MAHAPRANA/GA/GA GORA/NGA/CA/CA LACA",
      "JA/JA JERA/NYA/TA LATIK/TA MURDA MAHAPRANA/DA MURDA ALPAPRANA/DA MURDA MAHAPRANA",
      "NA RAMBAT/TA/TA TAWA/DA/DA MADU/NA/PA/PA KAPAL/BA/BA KEMBANG/MA/YA/RA/LA/WA/SA SAGA",
      "SA SAPA/SA/HA"]),
  (0x1B34, "BALINESE SIGN ", ["REREKAN"]),
  (0x1B35, "BALINESE VOWEL SIGN ",
    ["TEDUNG/ULU/ULU SARI/SUKU/SUKU ILUT/RA REPA/RA REPA TEDUNG/LA LENGA/LA LENGA TEDUNG/TALING",
      "TALING REPA/TALING TEDUNG/TALING REPA TEDUNG/PEPET/PEPET TEDUNG"]),
  (0x1B44, "BALINESE ADEG ", ["ADEG"]),
  (0x1B45, "BALINESE LETTER ",
    ["KAF SASAK/KHOT SASAK/TZIR SASAK/EF SASAK/VE SASAK/ZAL SASAK/ASYURA SASAK/ARCHAIC JNYA"]),
  (0x1B50, "BALINESE DIGIT ", ["ZERO/ONE/TWO/THREE/FOUR/FIVE/SIX/SEVEN/EIGHT/NINE"]),
  (0x1B5A, "BALINESE ", ["PANTI/PAMADA/WINDU/CARIK PAMUNGKAH/CARIK SIKI/CARIK PAREREN/PAMENENG"]),
  (0x1B61, "BALINESE MUSICAL SYMBOL ",
    ["DONG/DENG/DUNG/DANG/DANG SURANG/DING/DAENG/DEUNG/DAING/DANG GEDE"]),
  (0x1B6B, "BALINESE MUSICAL SYMBOL COMBINING ",
    ["TEGEH/ENDEP/KEMPUL/KEMPLI/JEGOGAN/KEMPUL WITH JEGOGAN/KEMPLI WITH JEGOGAN/BENDE/GONG"]),
  (0x1B74, "BALINESE MUSICAL SYMBOL RIGHT-HAND ", ["OPEN DUG/OPEN DAG/CLOSED TUK/CLOSED TAK"]),
  (0x1B78, "BALINESE MUSICAL SYMBOL LEFT-HAND ",
    ["OPEN PANG/OPEN PUNG/CLOSED PLAK/CLOSED PLUK/OPEN PING"]),
  (0x1B7D, "BALINESE ", ["PANTI LANTANG/PAMADA LANTANG"]),
  (0x1B80, "SUNDANESE SIGN ", ["PANYECEK/PANGLAYAR/PANGWISAD"]),
  (0x1B83, "SUNDANESE LETTER ",
    ["A/I/U/AE/O/E/EU/KA/QA/GA/NGA/CA/JA/ZA/NYA/TA/DA/NA/PA/FA/VA/BA/MA/YA/RA/LA/WA/SA/XA/HA"]),
  (0x1BA1, "SUNDANESE CONSONANT SIGN ", ["PAMINGKAL/PANYAKRA/PANYIKU"]),
  (0x1BA4, "SUNDANESE VOWEL SIGN ", ["PANGHULU/PANYUKU/PANAELAENG/PANOLONG/PAMEPET/PANEULEUNG"]),
  (0x1BAA, "SUNDANESE ",
    ["SIGN PAMAAEH/SIGN VIRAMA/CONSONANT SIGN PASANGAN MA/CONSONANT SIGN PASANGAN WA/LETTER KHA",
      "LETTER SYA/DIGIT ZERO/DIGIT ONE/DIGIT TWO/DIGIT THREE/DIGIT FOUR/DIGIT FIVE/DIGIT SIX",
      "DIGIT SEVEN/DIGIT EIGHT/DIGIT NINE/AVAGRAHA/LETTER REU/LETTER LEU/LETTER BHA",
      "LETTER FINAL K/LETTER FINAL M"]),
  (0x1BC0, "BATAK LETTER ",
    ["A/SIMALUNGUN A/HA/SIMALUNGUN HA/MANDAILING HA/BA/KARO BA/PA/SIMALUNGUN PA/NA",
      "MANDAILING NA/WA/SIMALUNGUN WA/PAKPAK WA/GA/SIMALUNGUN GA/JA/DA/RA/SIMALUNGUN RA/MA",
      "SIMALUNGUN MA/SOUTHERN TA/NORTHERN TA/SA/SIMALUNGUN SA/MANDAILING SA/YA/SIMALUNGUN YA/NGA",
      "LA/SIMALUNGUN LA/NYA/CA/NDA/MBA/I/U"]),
  (0x1BE6, "BATAK SIGN ", ["TOMPI"]),
  (0x1BE7, "BATAK VOWEL SIGN ", ["E/PAKPAK E/EE/I/KARO I/O/KARO O/U/U FOR SIMALUNGUN SA"]),
  (0x1BF0, "BATAK ", ["CONSONANT SIGN NG/CONSONANT SIGN H/PANGOLAT/PANONGONAN"]),
  (0x1BFC, "BATAK SYMBOL BINDU ", ["NA METEK/PINARBORAS/JUDUL/PANGOLAT"]),
  (0x1CC0, "SUNDANESE PUNCTUATION BINDU ",
    ["SURYA/PANGLONG/PURNAMA/CAKRA/LEU SATANGA/KA SATANGA/DA SATANGA/BA SATANGA"]),
  (0xA840, "PHAGS-PA LETTER ",
    ["KA/KHA/GA/NGA/CA/CHA/JA/NYA/TA/THA/DA/NA/PA/PHA/BA/MA/TSA/TSHA/DZA/WA/ZHA/ZA/SMALL A/YA",
      "RA/LA/SHA/SA/HA/A/I/U/E/O/QA/XA/FA/GGA/EE"]),
  (0xA867, "PHAGS-PA SUBJOINED LETTER ", ["WA/YA"]),
  (0xA869, "PHAGS-PA LETTER ",
    ["TTA/TTHA/DDA/NNA/ALTERNATE YA/VOICELESS SHA/VOICED HA/ASPIRATED FA"]),
  (0xA871, "PHAGS-PA ",
    ["SUBJOINED LETTER RA/SUPERFIXED LETTER RA/LETTER CANDRABINDU/SINGLE HEAD MARK",
      "DOUBLE HEAD MARK/MARK SHAD/MARK DOUBLE SHAD"]),
  (0xA900, "KAYAH LI DIGIT ", ["ZERO/ONE/TWO/THREE/FOUR/FIVE/SIX/SEVEN/EIGHT/NINE"]),
  (0xA90A, "KAYAH LI LETTER ",
    ["KA/KHA/GA/NGA/SA/SHA/ZA/NYA/TA/HTA/NA/PA/PHA/MA/DA/BA/RA/YA/LA/WA/THA/HA/VA/CA/A/OE/I/OO"]),
  (0xA926, "KAYAH LI ",
    ["VOWEL UE/VOWEL E/VOWEL U/VOWEL EE/VOWEL O/TONE PLOPHU/TONE CALYA/TONE CALYA PLOPHU",
      "SIGN CWI/SIGN SHYA"]),
  (0xA930, "REJANG LETTER ",
    ["KA/GA/NGA/TA/DA/NA/PA/BA/MA/CA/JA/NYA/SA/RA/LA/YA/WA/HA/MBA/NGGA/NDA/NYJA/A"]),
  (0xA947, "REJANG VOWEL SIGN ", ["I/U/E/AI/O/AU/EU/EA"]),
  (0xA94F, "REJANG CONSONANT SIGN ", ["NG/N/R/H"]),
  (0xA953, "REJANG ", ["VIRAMA"]),
  (0xA95F, "REJANG SECTION ", ["MARK"]),
  (0xA980, "JAVANESE SIGN ", ["PANYANGGA/CECAK/LAYAR/WIGNYAN"]),
  (0xA984, "JAVANESE LETTER ",
    ["A/I KAWI/I/II/U/PA CEREK/NGA LELET/NGA LELET RASWADI/E/AI/O/KA/KA SASAK/KA MURDA/GA",
      "GA MURDA/NGA/CA/CA MURDA/JA/NYA MURDA/JA MAHAPRANA/NYA/TTA/TTA MAHAPRANA/DDA",
      "DDA MAHAPRANA/NA MURDA/TA/TA MURDA/DA/DA MAHAPRANA/NA/PA/PA MURDA/BA/BA MURDA/MA/YA/RA",
      "RA AGUNG/LA/WA/SA MURDA/SA MAHAPRANA/SA/HA"]),
  (0xA9B3, "JAVANESE SIGN CECAK ", ["TELU"]),
  (0xA9B4, "JAVANESE VOWEL SIGN ",
    ["TARUNG/TOLONG/WULU/WULU MELIK/SUKU/SUKU MENDUT/TALING/DIRGA MURE/PEPET"]),
  (0xA9BD, "JAVANESE ",
    ["CONSONANT SIGN KERET/CONSONANT SIGN PENGKAL/CONSONANT SIGN CAKRA/PANGKON/LEFT RERENGGAN",
      "RIGHT RERENGGAN/PADA ANDAP/PADA MADYA/PADA LUHUR/PADA WINDU/PADA PANGKAT/PADA LINGSA",
      "PADA LUNGSI/PADA ADEG/PADA ADEG ADEG/PADA PISELEH/TURNED PADA PISELEH"]),
  (0xA9CF, "JAVANESE ", ["PANGRANGKEP"]),
  (0xA9D0, "JAVANESE DIGIT ", ["ZERO/ONE/TWO/THREE/FOUR/FIVE/SIX/SEVEN/EIGHT/NINE"]),
  (0xA9DE, "JAVANESE PADA ", ["TIRTA TUMETES/ISEN-ISEN"]),
  (0xA9E0, "MYANMAR LETTER SHAN ", ["GHA/CHA/JHA/NNA/BHA"]),
  (0xA9E5, "MYANMAR ", ["SIGN SHAN SAW/MODIFIER LETTER SHAN REDUPLICATION"]),
  (0xA9E7, "MYANMAR LETTER TAI LAING ", ["NYA/FA/GA/GHA/JA/JHA/DDA/DDHA/NNA"]),
  (0xA9F0, "MYANMAR TAI LAING DIGIT ", ["ZERO/ONE/TWO/THREE/FOUR/FIVE/SIX/SEVEN/EIGHT/NINE"]),
  (0xA9FA, "MYANMAR LETTER TAI LAING ", ["LLA/DA/DHA/BA/BHA"]),
  (0xAA00, "CHAM LETTER ",
    ["A/I/U/E/AI/O/KA/KHA/GA/GHA/NGUE/NGA/CHA/CHHA/JA/JHA/NHUE/NHA/NHJA/TA/THA/DA/DHA/NUE/NA",
      "DDA/PA/PPA/PHA/BA/BHA/MUE/MA/BBA/YA/RA/LA/VA/SSA/SA/HA"]),
  (0xAA29, "CHAM VOWEL SIGN ", ["AA/I/II/EI/U/OE/O/AI/AU/UE"]),
  (0xAA33, "CHAM CONSONANT SIGN ", ["YA/RA/LA/WA"]),
  (0xAA40, "CHAM ", ["LETTER FINAL K/LETTER FINAL G/LETTER FINAL NG/CONSONANT SIGN FINAL NG"]),
  (0xAA44, "CHAM LETTER FINAL ", ["CH/T/N/P/Y/R/L/SS"]),
  (0xAA4C, "CHAM CONSONANT SIGN FINAL ", ["M/H"]),
  (0xAA50, "CHAM DIGIT ", ["ZERO/ONE/TWO/THREE/FOUR/FIVE/SIX/SEVEN/EIGHT/NINE"]),
  (0xAA5C, "CHAM PUNCTUATION ", ["SPIRAL/DANDA/DOUBLE DANDA/TRIPLE DANDA"]),
  (0xAA60, "MYANMAR LETTER KHAMTI ",
    ["GA/CA/CHA/JA/JHA/NYA/TTA/TTHA/DDA/DDHA/DHA/NA/SA/HA/HHA/FA"]),
  (0xAA70, "MYANMAR ",
    ["MODIFIER LETTER KHAMTI REDUPLICATION/LETTER KHAMTI XA/LETTER KHAMTI ZA/LETTER KHAMTI RA",
      "LOGOGRAM KHAMTI OAY/LOGOGRAM KHAMTI QN/LOGOGRAM KHAMTI HM/SYMBOL AITON EXCLAMATION",
      "SYMBOL AITON ONE/SYMBOL AITON TWO/LETTER AITON RA/SIGN PAO KAREN TONE",
      "SIGN TAI LAING TONE-2/SIGN TAI LAING TONE-5/LETTER SHWE PALAUNG CHA",
      "LETTER SHWE PALAUNG SHA"]),
  (0xAA80, "TAI VIET LETTER ",
    ["LOW KO/HIGH KO/LOW KHO/HIGH KHO/LOW KHHO/HIGH KHHO/LOW GO/HIGH GO/LOW NGO/HIGH NGO/LOW CO",
      "HIGH CO/LOW CHO/HIGH CHO/LOW SO/HIGH SO/LOW NYO/HIGH NYO/LOW DO/HIGH DO/LOW TO/HIGH TO",
      "LOW THO/HIGH THO/LOW NO/HIGH NO/LOW BO/HIGH BO/LOW PO/HIGH PO/LOW PHO/HIGH PHO/LOW FO",
      "HIGH FO/LOW MO/HIGH MO/LOW YO/HIGH YO/LOW RO/HIGH RO/LOW LO/HIGH LO/LOW VO/HIGH VO/LOW HO",
      "HIGH HO/LOW O/HIGH O"]),
  (0xAAB0, "TAI VIET ",
    ["MAI KANG/VOWEL AA/VOWEL I/VOWEL UE/VOWEL U/VOWEL E/VOWEL O/MAI KHIT/VOWEL IA/VOWEL UEA",
      "VOWEL UA/VOWEL AUE/VOWEL AY/VOWEL AN/VOWEL AM/TONE MAI EK/TONE MAI NUENG/TONE MAI THO",
      "TONE MAI SONG"]),
  (0xAADB, "TAI VIET SYMBOL ", ["KON/NUENG/SAM/HO HOI/KOI KOI"]),
  (0x11660, "MONGOLIAN ",
    ["BIRGA WITH ORNAMENT/ROTATED BIRGA/DOUBLE BIRGA WITH ORNAMENT/TRIPLE BIRGA WITH ORNAMENT",
      "BIRGA WITH DOUBLE ORNAMENT/ROTATED BIRGA WITH ORNAMENT/ROTATED BIRGA WITH DOUBLE ORNAMENT",
      "INVERTED BIRGA/INVERTED BIRGA WITH DOUBLE ORNAMENT/SWIRL BIRGA/SWIRL BIRGA WITH ORNAMENT",
      "SWIRL BIRGA WITH DOUBLE ORNAMENT/TURNED SWIRL BIRGA WITH DOUBLE ORNAMENT"]),
  (0x11A00, "ZANABAZAR SQUARE LETTER ", ["A"]),
  (0x11A01, "ZANABAZAR SQUARE VOWEL ",
    ["SIGN I/SIGN UE/SIGN U/SIGN E/SIGN OE/SIGN O/SIGN AI/SIGN AU/SIGN REVERSED I/LENGTH MARK"]),
  (0x11A0B, "ZANABAZAR SQUARE LETTER ",
    ["KA/KHA/GA/GHA/NGA/CA/CHA/JA/NYA/TTA/TTHA/DDA/DDHA/NNA/TA/THA/DA/DHA/NA/PA/PHA/BA/BHA/MA",
      "TSA/TSHA/DZA/DZHA/ZHA/ZA/-A/YA/RA/LA/VA/SHA/SSA/SA/HA/KSSA"]),
  (0x11A33, "ZANABAZAR SQUARE ",
    ["FINAL CONSONANT MARK/SIGN VIRAMA/SIGN CANDRABINDU/SIGN CANDRABINDU WITH ORNAMENT",
      "SIGN CANDRA WITH ORNAMENT/SIGN ANUSVARA/SIGN VISARGA/CLUSTER-INITIAL LETTER RA",
      "CLUSTER-FINAL LETTER YA/CLUSTER-FINAL LETTER RA/CLUSTER-FINAL LETTER LA",
      "CLUSTER-FINAL LETTER VA/INITIAL HEAD MARK/CLOSING HEAD MARK/MARK TSHEG/MARK SHAD",
      "MARK DOUBLE SHAD/MARK LONG TSHEG/INITIAL DOUBLE-LINED HEAD MARK",
      "CLOSING DOUBLE-LINED HEAD MARK/SUBJOINER"]),
  (0x11A50, "SOYOMBO LETTER ", ["A"]),
  (0x11A51, "SOYOMBO VOWEL SIGN ", ["I/UE/U/E/O/OE/AI/AU/VOCALIC R/VOCALIC L"]),
  (0x11A5B, "SOYOMBO VOWEL LENGTH ", ["MARK"]),
  (0x11A5C, "SOYOMBO LETTER ",
    ["KA/KHA/GA/GHA/NGA/CA/CHA/JA/JHA/NYA/TTA/TTHA/DDA/DDHA/NNA/TA/THA/DA/DHA/NA/PA/PHA/BA/BHA",
      "MA/TSA/TSHA/DZA/ZHA/ZA/-A/YA/RA/LA/VA/SHA/SSA/SA/HA/KSSA"]),
  (0x11A84, "SOYOMBO SIGN ", ["JIHVAMULIYA/UPADHMANIYA"]),
  (0x11A86, "SOYOMBO CLUSTER-INITIAL LETTER ", ["RA/LA/SHA/SA"]),
  (0x11A8A, "SOYOMBO FINAL CONSONANT SIGN ", ["G/K/NG/D/N/B/M/R/L/SH/S/-A"]),
  (0x11A96, "SOYOMBO ",
    ["SIGN ANUSVARA/SIGN VISARGA/GEMINATION MARK/SUBJOINER/MARK TSHEG/MARK SHAD",
      "MARK DOUBLE SHAD/MARK PLUTA/HEAD MARK WITH MOON AND SUN AND TRIPLE FLAME",
      "HEAD MARK WITH MOON AND SUN AND FLAME/HEAD MARK WITH MOON AND SUN/TERMINAL MARK-1",
      "TERMINAL MARK-2"]),
  (0x11C70, "MARCHEN ", ["HEAD MARK/MARK SHAD"]),
  (0x11C72, "MARCHEN LETTER ",
    ["KA/KHA/GA/NGA/CA/CHA/JA/NYA/TA/THA/DA/NA/PA/PHA/BA/MA/TSA/TSHA/DZA/WA/ZHA/ZA/-A/YA/RA/LA",
      "SHA/SA/HA/A"]),
  (0x11C92, "MARCHEN SUBJOINED LETTER ",
    ["KA/KHA/GA/NGA/CA/CHA/JA/NYA/TA/THA/DA/NA/PA/PHA/BA/MA/TSA/TSHA/DZA/WA/ZHA/ZA"]),
  (0x11CA9, "MARCHEN SUBJOINED LETTER ", ["YA/RA/LA/SHA/SA/HA/A"]),
  (0x11CB0, "MARCHEN VOWEL SIGN ", ["AA/I/U/E/O"]),
  (0x11CB5, "MARCHEN SIGN ", ["ANUSVARA/CANDRABINDU"]),
  (0x11EE0, "MAKASAR LETTER ", ["KA/GA/NGA/PA/BA/MA/TA/DA/NA/CA/JA/NYA/YA/RA/LA/VA/SA/A"]),
  (0x11EF2, "MAKASAR ",
    ["ANGKA/VOWEL SIGN I/VOWEL SIGN U/VOWEL SIGN E/VOWEL SIGN O/PASSIMBANG/END OF SECTION"]),
  (0x16A70, "TANGSA LETTER ",
    ["OZ/OC/OQ/OX/AZ/AC/AQ/AX/VZ/VC/VQ/VX/EZ/EC/EQ/EX/IZ/IC/IQ/IX/UZ/UC/UQ/UX/AWZ/AWC/AWQ/AWX",
      "UIZ/UIC/UIQ/UIX/FINAL NG/LONG UEX/SHORT UEZ/SHORT AWX/UEC/UEZ/UEQ/UEX/UIUZ/UIUC/UIUQ/UIUX",
      "MZ/MC/MQ/MX/KA/KHA/GA/NGA/SA/YA/WA/PA/NYA/PHA/BA/MA/NA/HA/LA/HTA/TA/DA/RA/NHA/SHA/CA/TSA",
      "GHA/HTTA/THA/XA/FA/DHA/CHA/ZA"]),
  (0x16AC0, "TANGSA DIGIT ", ["ZERO/ONE/TWO/THREE/FOUR/FIVE/SIX/SEVEN/EIGHT/NINE"])]

end Linting.Unicode.Name
