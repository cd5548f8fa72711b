/-! Names of components and variants of ideographs, and of the marks that stand among them. A row
has the code of its first character, what its names start with, and their ends with slashes between
them. -/

namespace Linting.Unicode.Name
set_option autoImplicit false

def ideographRows : List (Nat × String × List String) := [
  (0x2E80, "CJK RADICAL ",
    ["REPEAT/CLIFF/SECOND ONE/SECOND TWO/SECOND THREE/PERSON/BOX/TABLE/KNIFE ONE/KNIFE TWO",
      "DIVINATION/SEAL/SMALL ONE/SMALL TWO/LAME ONE/LAME TWO/LAME THREE/LAME FOUR/SNAKE/THREAD",
      "SNOUT ONE/SNOUT TWO/HEART ONE/HEART TWO/HAND/RAP"]),
  (0x2E9B, "CJK RADICAL ",
    ["CHOKE/SUN/MOON/DEATH/MOTHER/CIVILIAN/WATER ONE/WATER TWO/FIRE/PAW ONE/PAW TWO",
      "SIMPLIFIED HALF TREE TRUNK/COW/DOG/JADE/BOLT OF CLOTH/EYE/SPIRIT ONE/SPIRIT TWO/BAMBOO",
      "SILK/C-SIMPLIFIED SILK/NET ONE/NET TWO/NET THREE/NET FOUR/MESH/SHEEP/RAM/EWE/OLD",
      "BRUSH ONE/BRUSH TWO/MEAT/MORTAR/GRASS ONE/GRASS TWO/GRASS THREE/TIGER/CLOTHES/WEST ONE",
      "WEST TWO/C-SIMPLIFIED SEE/SIMPLIFIED HORN/HORN/C-SIMPLIFIED SPEECH/C-SIMPLIFIED SHELL",
      "FOOT/C-SIMPLIFIED CART/SIMPLIFIED WALK/WALK ONE/WALK TWO/CITY/C-SIMPLIFIED GOLD/LONG ONE",
      "LONG TWO/C-SIMPLIFIED LONG/C-SIMPLIFIED GATE/MOUND ONE/MOUND TWO/RAIN/BLUE",
      "C-SIMPLIFIED TANNED LEATHER/C-SIMPLIFIED LEAF/C-SIMPLIFIED WIND/C-SIMPLIFIED FLY/EAT ONE",
      "EAT TWO/EAT THREE/C-SIMPLIFIED EAT/HEAD/C-SIMPLIFIED HORSE/BONE/GHOST/C-SIMPLIFIED FISH",
      "C-SIMPLIFIED BIRD/C-SIMPLIFIED SALT/SIMPLIFIED WHEAT/SIMPLIFIED YELLOW/C-SIMPLIFIED FROG",
      "J-SIMPLIFIED EVEN/C-SIMPLIFIED EVEN/J-SIMPLIFIED TOOTH/C-SIMPLIFIED TOOTH",
      "J-SIMPLIFIED DRAGON/C-SIMPLIFIED DRAGON/TURTLE/J-SIMPLIFIED TURTLE/C-SIMPLIFIED TURTLE"]),
  (0x2F00, "KANGXI RADICAL ",
    ["ONE/LINE/DOT/SLASH/SECOND/HOOK/TWO/LID/MAN/LEGS/ENTER/EIGHT/DOWN BOX/COVER/ICE/TABLE",
      "OPEN BOX/KNIFE/POWER/WRAP/SPOON/RIGHT OPEN BOX/HIDING ENCLOSURE/TEN/DIVINATION/SEAL/CLIFF",
      "PRIVATE/AGAIN/MOUTH/ENCLOSURE/EARTH/SCHOLAR/GO/GO SLOWLY/EVENING/BIG/WOMAN/CHILD/ROOF",
      "INCH/SMALL/LAME/CORPSE/SPROUT/MOUNTAIN/RIVER/WORK/ONESELF/TURBAN/DRY/SHORT THREAD",
      "DOTTED CLIFF/LONG STRIDE/TWO HANDS/SHOOT/BOW/SNOUT/BRISTLE/STEP/HEART/HALBERD/DOOR/HAND",
      "BRANCH/RAP/SCRIPT/DIPPER/AXE/SQUARE/NOT/SUN/SAY/MOON/TREE/LACK/STOP/DEATH/WEAPON/DO NOT",
      "COMPARE/FUR/CLAN/STEAM/WATER/FIRE/CLAW/FATHER/DOUBLE X/HALF TREE TRUNK/SLICE/FANG/COW/DOG",
      "PROFOUND/JADE/MELON/TILE/SWEET/LIFE/USE/FIELD/BOLT OF CLOTH/SICKNESS/DOTTED TENT/WHITE",
      "SKIN/DISH/EYE/SPEAR/ARROW/STONE/SPIRIT/TRACK/GRAIN/CAVE/STAND/BAMBOO/RICE/SILK/JAR/NET",
      "SHEEP/FEATHER/OLD/AND/PLOW/EAR/BRUSH/MEAT/MINISTER/SELF/ARRIVE/MORTAR/TONGUE/OPPOSE/BOAT",
      "STOPPING/COLOR/GRASS/TIGER/INSECT/BLOOD/WALK ENCLOSURE/CLOTHES/WEST/SEE/HORN/SPEECH",
      "VALLEY/BEAN/PIG/BADGER/SHELL/RED/RUN/FOOT/BODY/CART/BITTER/MORNING/WALK/CITY/WINE",
      "DISTINGUISH/VILLAGE/GOLD/LONG/GATE/MOUND/SLAVE/SHORT TAILED BIRD/RAIN/BLUE/WRONG/FACE",
      "LEATHER/TANNED LEATHER/LEEK/SOUND/LEAF/WIND/FLY/EAT/HEAD/FRAGRANT/HORSE/BONE/TALL/HAIR",
      "FIGHT/SACRIFICIAL WINE/CAULDRON/GHOST/FISH/BIRD/SALT/DEER/WHEAT/HEMP/YELLOW/MILLET/BLACK",
      "EMBROIDERY/FROG/TRIPOD/DRUM/RAT/NOSE/EVEN/TOOTH/DRAGON/TURTLE/FLUTE"]),
  (0x2FF0, "IDEOGRAPHIC DESCRIPTION CHARACTER ",
    ["LEFT TO RIGHT/ABOVE TO BELOW/LEFT TO MIDDLE AND RIGHT/ABOVE TO MIDDLE AND BELOW",
      "FULL SURROUND/SURROUND FROM ABOVE/SURROUND FROM BELOW/SURROUND FROM LEFT",
      "SURROUND FROM UPPER LEFT/SURROUND FROM UPPER RIGHT/SURROUND FROM LOWER LEFT/OVERLAID"]),
  (0x3000, "IDEOGRAPHIC ", ["SPACE/COMMA/FULL STOP"]),
  (0x3003, "",
    ["DITTO MARK/JAPANESE INDUSTRIAL STANDARD SYMBOL/IDEOGRAPHIC ITERATION MARK",
      "IDEOGRAPHIC CLOSING MARK/IDEOGRAPHIC NUMBER ZERO/LEFT ANGLE BRACKET/RIGHT ANGLE BRACKET",
      "LEFT DOUBLE ANGLE BRACKET/RIGHT DOUBLE ANGLE BRACKET/LEFT CORNER BRACKET",
      "RIGHT CORNER BRACKET/LEFT WHITE CORNER BRACKET/RIGHT WHITE CORNER BRACKET",
      "LEFT BLACK LENTICULAR BRACKET/RIGHT BLACK LENTICULAR BRACKET/POSTAL MARK/GETA MARK",
      "LEFT TORTOISE SHELL BRACKET/RIGHT TORTOISE SHELL BRACKET/LEFT WHITE LENTICULAR BRACKET",
      "RIGHT WHITE LENTICULAR BRACKET/LEFT WHITE TORTOISE SHELL BRACKET",
      "RIGHT WHITE TORTOISE SHELL BRACKET/LEFT WHITE SQUARE BRACKET/RIGHT WHITE SQUARE BRACKET",
      "WAVE DASH/REVERSED DOUBLE PRIME QUOTATION MARK/DOUBLE PRIME QUOTATION MARK",
      "LOW DOUBLE PRIME QUOTATION MARK/POSTAL MARK FACE"]),
  (0x3021, "HANGZHOU NUMERAL ", ["ONE/TWO/THREE/FOUR/FIVE/SIX/SEVEN/EIGHT/NINE"]),
  (0x302A, "IDEOGRAPHIC ",
    ["LEVEL TONE MARK/RISING TONE MARK/DEPARTING TONE MARK/ENTERING TONE MARK"]),
  (0x302E, "", ["HANGUL SINGLE DOT TONE MARK/HANGUL DOUBLE DOT TONE MARK/WAVY DASH"]),
  (0x3031, "VERTICAL KANA REPEAT ",
    ["MARK/WITH VOICED SOUND MARK/MARK UPPER HALF/WITH VOICED SOUND MARK UPPER HALF",
      "MARK LOWER HALF"]),
  (0x3036, "",
    ["CIRCLED POSTAL MARK/IDEOGRAPHIC TELEGRAPH LINE FEED SEPARATOR SYMBOL/HANGZHOU NUMERAL TEN",
      "HANGZHOU NUMERAL TWENTY/HANGZHOU NUMERAL THIRTY/VERTICAL IDEOGRAPHIC ITERATION MARK",
      "MASU MARK/PART ALTERNATION MARK/IDEOGRAPHIC VARIATION INDICATOR",
      "IDEOGRAPHIC HALF FILL SPACE"]),
  (0x3190, "IDEOGRAPHIC ANNOTATION ",
    ["LINKING MARK/REVERSE MARK/ONE MARK/TWO MARK/THREE MARK/FOUR MARK/TOP MARK/MIDDLE MARK",
      "BOTTOM MARK/FIRST MARK/SECOND MARK/THIRD MARK/FOURTH MARK/HEAVEN MARK/EARTH MARK/MAN MARK"]),
  (0x31C0, "CJK STROKE ",
    ["T/WG/XG/BXG/SW/HZZ/HZG/HP/HZWG/SZWG/HZT/HZZP/HPWG/HZW/HZZZ/N/H/S/P/SP/D/HZ/HG/SZ/SWZ/ST",
      "SG/PD/PZ/TN/SZZ/SWG/HXWG/HZZZG/PG/Q"]),
  (0x3200, "PARENTHESIZED HANGUL ",
    ["KIYEOK/NIEUN/TIKEUT/RIEUL/MIEUM/PIEUP/SIOS/IEUNG/CIEUC/CHIEUCH/KHIEUKH/THIEUTH/PHIEUPH",
      "HIEUH/KIYEOK A/NIEUN A/TIKEUT A/RIEUL A/MIEUM A/PIEUP A/SIOS A/IEUNG A/CIEUC A/CHIEUCH A",
      "KHIEUKH A/THIEUTH A/PHIEUPH A/HIEUH A/CIEUC U"]),
  (0x321D, "PARENTHESIZED KOREAN CHARACTER ", ["OJEON/O HU"]),
  (0x3220, "PARENTHESIZED IDEOGRAPH ",
    ["ONE/TWO/THREE/FOUR/FIVE/SIX/SEVEN/EIGHT/NINE/TEN/MOON/FIRE/WATER/WOOD/METAL/EARTH/SUN",
      "STOCK/HAVE/SOCIETY/NAME/SPECIAL/FINANCIAL/CONGRATULATION/LABOR/REPRESENT/CALL/STUDY",
      "SUPERVISE/ENTERPRISE/RESOURCE/ALLIANCE/FESTIVAL/REST/SELF/REACH"]),
  (0x3244, "CIRCLED IDEOGRAPH ", ["QUESTION/KINDERGARTEN/SCHOOL/KOTO"]),
  (0x3248, "CIRCLED NUMBER ",
    ["TEN ON BLACK SQUARE/TWENTY ON BLACK SQUARE/THIRTY ON BLACK SQUARE/FORTY ON BLACK SQUARE",
      "FIFTY ON BLACK SQUARE/SIXTY ON BLACK SQUARE/SEVENTY ON BLACK SQUARE",
      "EIGHTY ON BLACK SQUARE"]),
  (0x3250, "PARTNERSHIP ", ["SIGN"]),
  (0x3251, "CIRCLED NUMBER TWENTY ", ["ONE/TWO/THREE/FOUR/FIVE/SIX/SEVEN/EIGHT/NINE"]),
  (0x325A, "CIRCLED NUMBER ",
    ["THIRTY/THIRTY ONE/THIRTY TWO/THIRTY THREE/THIRTY FOUR/THIRTY FIVE"]),
  (0x3260, "CIRCLED HANGUL ",
    ["KIYEOK/NIEUN/TIKEUT/RIEUL/MIEUM/PIEUP/SIOS/IEUNG/CIEUC/CHIEUCH/KHIEUKH/THIEUTH/PHIEUPH",
      "HIEUH/KIYEOK A/NIEUN A/TIKEUT A/RIEUL A/MIEUM A/PIEUP A/SIOS A/IEUNG A/CIEUC A/CHIEUCH A",
      "KHIEUKH A/THIEUTH A/PHIEUPH A/HIEUH A"]),
  (0x327C, "CIRCLED KOREAN CHARACTER ", ["CHAMKO/JUEUI"]),
  (0x327E, "", ["CIRCLED HANGUL IEUNG U/KOREAN STANDARD SYMBOL"]),
  (0x3280, "CIRCLED IDEOGRAPH ",
    ["ONE/TWO/THREE/FOUR/FIVE/SIX/SEVEN/EIGHT/NINE/TEN/MOON/FIRE/WATER/WOOD/METAL/EARTH/SUN",
      "STOCK/HAVE/SOCIETY/NAME/SPECIAL/FINANCIAL/CONGRATULATION/LABOR/SECRET/MALE/FEMALE",
      "SUITABLE/EXCELLENT/PRINT/ATTENTION/ITEM/REST/COPY/CORRECT/HIGH/CENTRE/LOW/LEFT/RIGHT",
      "MEDICINE/RELIGION/STUDY/SUPERVISE/ENTERPRISE/RESOURCE/ALLIANCE/NIGHT"]),
  (0x32B1, "CIRCLED NUMBER ",
    ["THIRTY SIX/THIRTY SEVEN/THIRTY EIGHT/THIRTY NINE/FORTY/FORTY ONE/FORTY TWO/FORTY THREE",
      "FORTY FOUR/FORTY FIVE/FORTY SIX/FORTY SEVEN/FORTY EIGHT/FORTY NINE/FIFTY"]),
  (0x32C0, "IDEOGRAPHIC TELEGRAPH SYMBOL FOR ",
    ["JANUARY/FEBRUARY/MARCH/APRIL/MAY/JUNE/JULY/AUGUST/SEPTEMBER/OCTOBER/NOVEMBER/DECEMBER"]),
  (0x32CC, "", ["SQUARE HG/SQUARE ERG/SQUARE EV/LIMITED LIABILITY SIGN"]),
  (0x32D0, "CIRCLED KATAKANA ",
    ["A/I/U/E/O/KA/KI/KU/KE/KO/SA/SI/SU/SE/SO/TA/TI/TU/TE/TO/NA/NI/NU/NE/NO/HA/HI/HU/HE/HO/MA",
      "MI/MU/ME/MO/YA/YU/YO/RA/RI/RU/RE/RO/WA/WI/WE/WO"]),
  (0x32FF, "SQUARE ",
    ["ERA NAME REIWA/APAATO/ARUHUA/ANPEA/AARU/ININGU/INTI/UON/ESUKUUDO/EEKAA/ONSU/OOMU/KAIRI",
      "KARATTO/KARORII/GARON/GANMA/GIGA/GINII/KYURII/GIRUDAA/KIRO/KIROGURAMU/KIROMEETORU",
      "KIROWATTO/GURAMU/GURAMUTON/KURUZEIRO/KUROONE/KEESU/KORUNA/KOOPO/SAIKURU/SANTIIMU/SIRINGU",
      "SENTI/SENTO/DAASU/DESI/DORU/TON/NANO/NOTTO/HAITU/PAASENTO/PAATU/BAARERU/PIASUTORU/PIKURU",
      "PIKO/BIRU/HUARADDO/HUIITO/BUSSYERU/HURAN/HEKUTAARU/PESO/PENIHI/HERUTU/PENSU/PEEZI/BEETA",
      "POINTO/BORUTO/HON/PONDO/HOORU/HOON/MAIKURO/MAIRU/MAHHA/MARUKU/MANSYON/MIKURON/MIRI",
      "MIRIBAARU/MEGA/MEGATON/MEETORU/YAADO/YAARU/YUAN/RITTORU/RIRA/RUPII/RUUBURU/REMU/RENTOGEN",
      "WATTO"]),
  (0x3358, "IDEOGRAPHIC TELEGRAPH SYMBOL FOR HOUR ",
    ["ZERO/ONE/TWO/THREE/FOUR/FIVE/SIX/SEVEN/EIGHT/NINE/TEN/ELEVEN/TWELVE/THIRTEEN/FOURTEEN",
      "FIFTEEN/SIXTEEN/SEVENTEEN/EIGHTEEN/NINETEEN/TWENTY/TWENTY-ONE/TWENTY-TWO/TWENTY-THREE",
      "TWENTY-FOUR"]),
  (0x3371, "SQUARE ",
    ["HPA/DA/AU/BAR/OV/PC/DM/DM SQUARED/DM CUBED/IU/ERA NAME HEISEI/ERA NAME SYOUWA",
      "ERA NAME TAISYOU/ERA NAME MEIZI/CORPORATION/PA AMPS/NA/MU A/MA/KA/KB/MB/GB/CAL/KCAL/PF/NF",
      "MU F/MU G/MG/KG/HZ/KHZ/MHZ/GHZ/THZ/MU L/ML/DL/KL/FM/NM/MU M/MM/CM/KM/MM SQUARED",
      "CM SQUARED/M SQUARED/KM SQUARED/MM CUBED/CM CUBED/M CUBED/KM CUBED/M OVER S",
      "M OVER S SQUARED/PA/KPA/MPA/GPA/RAD/RAD OVER S/RAD OVER S SQUARED/PS/NS/MU S/MS/PV/NV",
      "MU V/MV/KV/MV MEGA/PW/NW/MU W/MW/KW/MW MEGA/K OHM/M OHM/AM/BQ/CC/CD/C OVER KG/CO/DB/GY/HA",
      "HP/IN/KK/KM CAPITAL/KT/LM/LN/LOG/LX/MB SMALL/MIL/MOL/PH/PM/PPM/PR/SR/SV/WB/V OVER M",
      "A OVER M"]),
  (0x33E0, "IDEOGRAPHIC TELEGRAPH SYMBOL FOR DAY ",
    ["ONE/TWO/THREE/FOUR/FIVE/SIX/SEVEN/EIGHT/NINE/TEN/ELEVEN/TWELVE/THIRTEEN/FOURTEEN/FIFTEEN",
      "SIXTEEN/SEVENTEEN/EIGHTEEN/NINETEEN/TWENTY/TWENTY-ONE/TWENTY-TWO/TWENTY-THREE/TWENTY-FOUR",
      "TWENTY-FIVE/TWENTY-SIX/TWENTY-SEVEN/TWENTY-EIGHT/TWENTY-NINE/THIRTY/THIRTY-ONE"]),
  (0x33FF, "SQUARE ", ["GAL"]),
  (0x4DC0, "HEXAGRAM FOR ",
    ["THE CREATIVE HEAVEN/THE RECEPTIVE EARTH/DIFFICULTY AT THE BEGINNING/YOUTHFUL FOLLY",
      "WAITING/CONFLICT/THE ARMY/HOLDING TOGETHER/SMALL TAMING/TREADING/PEACE/STANDSTILL",
      "FELLOWSHIP/GREAT POSSESSION/MODESTY/ENTHUSIASM/FOLLOWING/WORK ON THE DECAYED/APPROACH",
      "CONTEMPLATION/BITING THROUGH/GRACE/SPLITTING APART/RETURN/INNOCENCE/GREAT TAMING",
      "MOUTH CORNERS/GREAT PREPONDERANCE/THE ABYSMAL WATER/THE CLINGING FIRE/INFLUENCE/DURATION",
      "RETREAT/GREAT POWER/PROGRESS/DARKENING OF THE LIGHT/THE FAMILY/OPPOSITION/OBSTRUCTION",
      "DELIVERANCE/DECREASE/INCREASE/BREAKTHROUGH/COMING TO MEET/GATHERING TOGETHER",
      "PUSHING UPWARD/OPPRESSION/THE WELL/REVOLUTION/THE CAULDRON/THE AROUSING THUNDER",
      "THE KEEPING STILL MOUNTAIN/DEVELOPMENT/THE MARRYING MAIDEN/ABUNDANCE/THE WANDERER",
      "THE GENTLE WIND/THE JOYOUS LAKE/DISPERSION/LIMITATION/INNER TRUTH/SMALL PREPONDERANCE",
      "AFTER COMPLETION/BEFORE COMPLETION"]),
  (0xFE10, "PRESENTATION FORM FOR VERTICAL ",
    ["COMMA/IDEOGRAPHIC COMMA/IDEOGRAPHIC FULL STOP/COLON/SEMICOLON/EXCLAMATION MARK",
      "QUESTION MARK/LEFT WHITE LENTICULAR BRACKET/RIGHT WHITE LENTICULAR BRAKCET",
      "HORIZONTAL ELLIPSIS"]),
  (0xFE30, "PRESENTATION FORM FOR VERTICAL ",
    ["TWO DOT LEADER/EM DASH/EN DASH/LOW LINE/WAVY LOW LINE/LEFT PARENTHESIS/RIGHT PARENTHESIS",
      "LEFT CURLY BRACKET/RIGHT CURLY BRACKET/LEFT TORTOISE SHELL BRACKET",
      "RIGHT TORTOISE SHELL BRACKET/LEFT BLACK LENTICULAR BRACKET/RIGHT BLACK LENTICULAR BRACKET",
      "LEFT DOUBLE ANGLE BRACKET/RIGHT DOUBLE ANGLE BRACKET/LEFT ANGLE BRACKET",
      "RIGHT ANGLE BRACKET/LEFT CORNER BRACKET/RIGHT CORNER BRACKET/LEFT WHITE CORNER BRACKET",
      "RIGHT WHITE CORNER BRACKET"]),
  (0xFE45, "",
    ["SESAME DOT/WHITE SESAME DOT/PRESENTATION FORM FOR VERTICAL LEFT SQUARE BRACKET",
      "PRESENTATION FORM FOR VERTICAL RIGHT SQUARE BRACKET/DASHED OVERLINE/CENTRELINE OVERLINE",
      "WAVY OVERLINE/DOUBLE WAVY OVERLINE/DASHED LOW LINE/CENTRELINE LOW LINE/WAVY LOW LINE",
      "SMALL COMMA/SMALL IDEOGRAPHIC COMMA/SMALL FULL STOP"]),
  (0xFE54, "SMALL ",
    ["SEMICOLON/COLON/QUESTION MARK/EXCLAMATION MARK/EM DASH/LEFT PARENTHESIS/RIGHT PARENTHESIS",
      "LEFT CURLY BRACKET/RIGHT CURLY BRACKET/LEFT TORTOISE SHELL BRACKET",
      "RIGHT TORTOISE SHELL BRACKET/NUMBER SIGN/AMPERSAND/ASTERISK/PLUS SIGN/HYPHEN-MINUS",
      "LESS-THAN SIGN/GREATER-THAN SIGN/EQUALS SIGN"]),
  (0xFE68, "SMALL ", ["REVERSE SOLIDUS/DOLLAR SIGN/PERCENT SIGN/COMMERCIAL AT"]),
  (0xFF01, "FULLWIDTH ",
    ["EXCLAMATION MARK/QUOTATION MARK/NUMBER SIGN/DOLLAR SIGN/PERCENT SIGN/AMPERSAND/APOSTROPHE",
      "LEFT PARENTHESIS/RIGHT PARENTHESIS/ASTERISK/PLUS SIGN/COMMA/HYPHEN-MINUS/FULL STOP",
      "SOLIDUS/DIGIT ZERO/DIGIT ONE/DIGIT TWO/DIGIT THREE/DIGIT FOUR/DIGIT FIVE/DIGIT SIX",
      "DIGIT SEVEN/DIGIT EIGHT/DIGIT NINE/COLON/SEMICOLON/LESS-THAN SIGN/EQUALS SIGN",
      "GREATER-THAN SIGN/QUESTION MARK/COMMERCIAL AT"]),
  (0xFF21, "FULLWIDTH LATIN CAPITAL LETTER ",
    ["A/B/C/D/E/F/G/H/I/J/K/L/M/N/O/P/Q/R/S/T/U/V/W/X/Y/Z"]),
  (0xFF3B, "FULLWIDTH ",
    ["LEFT SQUARE BRACKET/REVERSE SOLIDUS/RIGHT SQUARE BRACKET/CIRCUMFLEX ACCENT/LOW LINE",
      "GRAVE ACCENT"]),
  (0xFF41, "FULLWIDTH LATIN SMALL LETTER ",
    ["A/B/C/D/E/F/G/H/I/J/K/L/M/N/O/P/Q/R/S/T/U/V/W/X/Y/Z"]),
  (0xFF5B, "FULLWIDTH ",
    ["LEFT CURLY BRACKET/VERTICAL LINE/RIGHT CURLY BRACKET/TILDE/LEFT WHITE PARENTHESIS",
      "RIGHT WHITE PARENTHESIS"]),
  (0xFF61, "HALFWIDTH ",
    ["IDEOGRAPHIC FULL STOP/LEFT CORNER BRACKET/RIGHT CORNER BRACKET/IDEOGRAPHIC COMMA",
      "KATAKANA MIDDLE DOT/KATAKANA LETTER WO"]),
  (0xFF67, "HALFWIDTH KATAKANA LETTER SMALL ", ["A/I/U/E/O/YA/YU/YO/TU"]),
  (0xFF70, "HALFWIDTH KATAKANA-HIRAGANA PROLONGED SOUND ", ["MARK"]),
  (0xFF71, "HALFWIDTH KATAKANA LETTER ",
    ["A/I/U/E/O/KA/KI/KU/KE/KO/SA/SI/SU/SE/SO/TA/TI/TU/TE/TO/NA/NI/NU/NE/NO/HA/HI/HU/HE/HO/MA",
      "MI/MU/ME/MO/YA/YU/YO/RA/RI/RU/RE/RO/WA/N"]),
  (0xFF9E, "HALFWIDTH ",
    ["KATAKANA VOICED SOUND MARK/KATAKANA SEMI-VOICED SOUND MARK/HANGUL FILLER"]),
  (0xFFA1, "HALFWIDTH HANGUL LETTER ",
    ["KIYEOK/SSANGKIYEOK/KIYEOK-SIOS/NIEUN/NIEUN-CIEUC/NIEUN-HIEUH/TIKEUT/SSANGTIKEUT/RIEUL",
      "RIEUL-KIYEOK/RIEUL-MIEUM/RIEUL-PIEUP/RIEUL-SIOS/RIEUL-THIEUTH/RIEUL-PHIEUPH/RIEUL-HIEUH",
      "MIEUM/PIEUP/SSANGPIEUP/PIEUP-SIOS/SIOS/SSANGSIOS/IEUNG/CIEUC/SSANGCIEUC/CHIEUCH/KHIEUKH",
      "THIEUTH/PHIEUPH/HIEUH"]),
  (0xFFC2, "HALFWIDTH HANGUL LETTER ", ["A/AE/YA/YAE/EO/E"]),
  (0xFFCA, "HALFWIDTH HANGUL LETTER ", ["YEO/YE/O/WA/WAE/OE"]),
  (0xFFD2, "HALFWIDTH HANGUL LETTER ", ["YO/U/WEO/WE/WI/YU"]),
  (0xFFDA, "HALFWIDTH HANGUL LETTER ", ["EU/YI/I"]),
  (0xFFE0, "FULLWIDTH ", ["CENT SIGN/POUND SIGN/NOT SIGN/MACRON/BROKEN BAR/YEN SIGN/WON SIGN"]),
  (0xFFE8, "HALFWIDTH ",
    ["FORMS LIGHT VERTICAL/LEFTWARDS ARROW/UPWARDS ARROW/RIGHTWARDS ARROW/DOWNWARDS ARROW",
      "BLACK SQUARE/WHITE CIRCLE"]),
  (0x16FE0, "",
    ["TANGUT ITERATION MARK/NUSHU ITERATION MARK/OLD CHINESE HOOK MARK",
      "OLD CHINESE ITERATION MARK/KHITAN SMALL SCRIPT FILLER"]),
  (0x16FF0, "VIETNAMESE ALTERNATE READING MARK ", ["CA/NHAY"]),
  (0x18800, "TANGUT COMPONENT-",
    ["001/002/003/004/005/006/007/008/009/010/011/012/013/014/015/016/017/018/019/020/021/022",
      "023/024/025/026/027/028/029/030/031/032/033/034/035/036/037/038/039/040/041/042/043/044",
      "045/046/047/048/049/050/051/052/053/054/055/056/057/058/059/060/061/062/063/064/065/066",
      "067/068/069/070/071/072/073/074/075/076/077/078/079/080/081/082/083/084/085/086/087/088",
      "089/090/091/092/093/094/095/096/097/098/099/100/101/102/103/104/105/106/107/108/109/110",
      "111/112/113/114/115/116/117/118/119/120/121/122/123/124/125/126/127/128/129/130/131/132",
      "133/134/135/136/137/138/139/140/141/142/143/144/145/146/147/148/149/150/151/152/153/154",
      "155/156/157/158/159/160/161/162/163/164/165/166/167/168"]),
  (0x188A8, "TANGUT COMPONENT-",
    ["169/170/171/172/173/174/175/176/177/178/179/180/181/182/183/184/185/186/187/188/189/190",
      "191/192/193/194/195/196/197/198/199/200/201/202/203/204/205/206/207/208/209/210/211/212",
      "213/214/215/216/217/218/219/220/221/222/223/224/225/226/227/228/229/230/231/232/233/234",
      "235/236/237/238/239/240/241/242/243/244/245/246/247/248/249/250/251/252/253/254/255/256",
      "257/258/259/260/261/262/263/264/265/266/267/268/269/270/271/272/273/274/275/276/277/278",
      "279/280/281/282/283/284/285/286/287/288/289/290/291/292/293/294/295/296/297/298/299/300",
      "301/302/303/304/305/306/307/308/309/310/311/312/313/314/315/316/317/318/319/320/321/322",
      "323/324/325/326/327/328/329/330/331/332/333/334/335/336/337/338/339/340/341/342/343/344",
      "345/346/347/348/349/350/351/352/353/354/355/356/357/358/359/360/361/362/363/364/365/366",
      "367/368/369/370/371/372/373/374/375/376/377/378/379/380/381/382/383/384/385/386/387/388",
      "389/390/391/392/393/394/395/396/397/398/399/400/401/402/403/404/405/406/407/408/409/410",
      "411/412/413/414/415/416/417/418/419/420/421/422/423/424/425/426/427/428/429/430/431/432",
      "433/434/435/436/437/438/439/440/441/442/443/444/445/446/447/448/449/450/451/452/453/454",
      "455/456/457/458/459/460/461/462/463/464/465/466/467/468/469/470/471/472/473/474/475/476",
      "477/478/479/480/481/482/483/484/485/486/487/488/489/490/491/492/493/494/495/496/497/498",
      "499/500/501/502/503/504/505/506/507/508/509/510/511/512/513/514/515/516/517/518/519/520",
      "521/522/523/524/525/526/527/528/529/530/531/532/533/534/535/536/537/538/539/540/541/542",
      "543/544/545/546/547/548/549/550/551/552/553/554/555/556/557/558/559/560/561/562/563/564",
      "565/566/567/568/569/570/571/572/573/574/575/576/577/578/579/580/581/582/583/584/585/586",
      "587/588/589/590/591/592/593/594/595/596/597/598/599/600/601/602/603/604/605/606/607/608",
      "609/610/611/612/613/614/615/616/617/618/619/620/621/622/623/624/625/626/627/628/629/630",
      "631/632/633/634/635/636/637/638/639/640/641/642/643/644/645/646/647/648/649/650/651/652",
      "653/654/655/656/657/658/659/660/661/662/663/664/665/666/667/668/669/670/671/672/673/674",
      "675/676/677/678/679/680/681/682/683/684/685/686/687/688/689/690/691/692/693/694/695/696",
      "697/698/699/700/701/702/703/704/705/706/707/708/709/710/711/712/713/714/715/716/717/718",
      "719/720/721/722/723/724/725/726/727/728/729/730/731/732/733/734/735/736/737/738/739/740",
      "741/742/743/744/745/746/747/748/749/750/751/752/753/754/755/756/757/758/759/760/761/762",
      "763/764/765/766/767/768"]),
  (0x1D300, "MONOGRAM FOR ", ["EARTH"]),
  (0x1D301, "DIGRAM FOR ", ["HEAVENLY EARTH/HUMAN EARTH/EARTHLY HEAVEN/EARTHLY HUMAN/EARTH"]),
  (0x1D306, "TETRAGRAM FOR ",
    ["CENTRE/FULL CIRCLE/MIRED/BARRIER/KEEPING SMALL/CONTRARIETY/ASCENT/OPPOSITION",
      "BRANCHING OUT/DEFECTIVENESS OR DISTORTION/DIVERGENCE/YOUTHFULNESS/INCREASE/PENETRATION",
      "REACH/CONTACT/HOLDING BACK/WAITING/FOLLOWING/ADVANCE/RELEASE/RESISTANCE/EASE/JOY",
      "CONTENTION/ENDEAVOUR/DUTIES/CHANGE/DECISIVENESS/BOLD RESOLUTION/PACKING/LEGION/CLOSENESS",
      "KINSHIP/GATHERING/STRENGTH/PURITY/FULLNESS/RESIDENCE/LAW OR MODEL/RESPONSE/GOING TO MEET",
      "ENCOUNTERS/STOVE/GREATNESS/ENLARGEMENT/PATTERN/RITUAL/FLIGHT/VASTNESS OR WASTING",
      "CONSTANCY/MEASURE/ETERNITY/UNITY/DIMINISHMENT/CLOSED MOUTH/GUARDEDNESS/GATHERING IN",
      "MASSING/ACCUMULATION/EMBELLISHMENT/DOUBT/WATCH/SINKING/INNER/DEPARTURE/DARKENING/DIMMING",
      "EXHAUSTION/SEVERANCE/STOPPAGE/HARDNESS/COMPLETION/CLOSURE/FAILURE/AGGRAVATION/COMPLIANCE",
      "ON THE VERGE/DIFFICULTIES/LABOURING/FOSTERING"]),
  (0x1D360, "COUNTING ROD UNIT DIGIT ", ["ONE/TWO/THREE/FOUR/FIVE/SIX/SEVEN/EIGHT/NINE"]),
  (0x1D369, "COUNTING ROD TENS DIGIT ", ["ONE/TWO/THREE/FOUR/FIVE/SIX/SEVEN/EIGHT/NINE"]),
  (0x1D372, "IDEOGRAPHIC TALLY MARK ", ["ONE/TWO/THREE/FOUR/FIVE"]),
  (0x1D377, "TALLY MARK ", ["ONE/FIVE"]),
  (0x1F200, "", ["SQUARE HIRAGANA HOKA/SQUARED KATAKANA KOKO/SQUARED KATAKANA SA"]),
  (0x1F210, "SQUARED CJK UNIFIED IDEOGRAPH-", ["624B/5B57/53CC"]),
  (0x1F213, "SQUARED KATAKANA ", ["DE"]),
  (0x1F214, "SQUARED CJK UNIFIED IDEOGRAPH-",
    ["4E8C/591A/89E3/5929/4EA4/6620/7121/6599/524D/5F8C/518D/65B0/521D/7D42/751F/8CA9/58F0/5439",
      "6F14/6295/6355/4E00/4E09/904A/5DE6/4E2D/53F3/6307/8D70/6253/7981/7A7A/5408/6E80/6709/6708",
      "7533/5272/55B6/914D"]),
  (0x1F240, "TORTOISE SHELL BRACKETED CJK UNIFIED IDEOGRAPH-",
    ["672C/4E09/4E8C/5B89/70B9/6253/76D7/52DD/6557"]),
  (0x1F250, "CIRCLED IDEOGRAPH ", ["ADVANTAGE/ACCEPT"]),
  (0x1F260, "ROUNDED SYMBOL FOR ", ["FU/LU/SHOU/XI/SHUANGXI/CAI"])]

end Linting.Unicode.Name
