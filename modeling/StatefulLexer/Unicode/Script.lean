/-
The script of every character, and the scripts a character is used with.

Most characters belong to one script. Some are shared, and for those a second
table names all scripts they are used with; a character that it does not name is
used with its own script only.
-/
import StatefulLexer.Unicode.RunLength

set_option autoImplicit false

namespace StatefulLexer.Script

/-! ## The tables -/

/-- The scripts in code order, as run lengths. -/
def table : String :=
  "Zyyy65 Latn26 Zyyy6 Latn26 Zyyy47 Latn1 Zyyy15 Latn1 Zyyy5 Latn23 Zyyy1 Latn31 Zyyy1
    Latn449 Zyyy39 Latn5 Zyyy5 Bopo2 Zyyy20 Zinh112 Grek4 Zyyy1 Grek3 Zzzz2 Grek4 Zyyy1
    Grek1 Zzzz4 Grek1 Zyyy1 Grek1 Zyyy1 Grek3 Zzzz1 Grek1 Zzzz1 Grek20 Zzzz1 Grek63 Copt14
    Grek16 Cyrl133 Zinh2 Cyrl169 Zzzz1 Armn38 Zzzz2 Armn50 Zzzz2 Armn3 Zzzz1 Hebr55 Zzzz8
    Hebr27 Zzzz4 Hebr6 Zzzz11 Arab5 Zyyy1 Arab6 Zyyy1 Arab14 Zyyy1 Arab3 Zyyy1 Arab32 Zyyy1
    Arab10 Zinh11 Arab26 Zinh1 Arab108 Zyyy1 Arab34 Syrc14 Zzzz1 Syrc60 Zzzz2 Syrc3 Arab48
    Thaa50 Zzzz14 Nkoo59 Zzzz2 Nkoo3 Samr46 Zzzz2 Samr15 Zzzz1 Mand28 Zzzz2 Mand1 Zzzz1
    Syrc11 Zzzz5 Arab31 Zzzz1 Arab2 Zzzz5 Arab75 Zyyy1 Arab29 Deva81 Zinh4 Deva15 Zyyy2
    Deva26 Beng4 Zzzz1 Beng8 Zzzz2 Beng2 Zzzz2 Beng22 Zzzz1 Beng7 Zzzz1 Beng1 Zzzz3 Beng4
    Zzzz2 Beng9 Zzzz2 Beng2 Zzzz2 Beng4 Zzzz8 Beng1 Zzzz4 Beng2 Zzzz1 Beng5 Zzzz2 Beng25
    Zzzz2 Guru3 Zzzz1 Guru6 Zzzz4 Guru2 Zzzz2 Guru22 Zzzz1 Guru7 Zzzz1 Guru2 Zzzz1 Guru2
    Zzzz1 Guru2 Zzzz2 Guru1 Zzzz1 Guru5 Zzzz4 Guru2 Zzzz2 Guru3 Zzzz3 Guru1 Zzzz7 Guru4
    Zzzz1 Guru1 Zzzz7 Guru17 Zzzz10 Gujr3 Zzzz1 Gujr9 Zzzz1 Gujr3 Zzzz1 Gujr22 Zzzz1 Gujr7
    Zzzz1 Gujr2 Zzzz1 Gujr5 Zzzz2 Gujr10 Zzzz1 Gujr3 Zzzz1 Gujr3 Zzzz2 Gujr1 Zzzz15 Gujr4
    Zzzz2 Gujr12 Zzzz7 Gujr7 Zzzz1 Orya3 Zzzz1 Orya8 Zzzz2 Orya2 Zzzz2 Orya22 Zzzz1 Orya7
    Zzzz1 Orya2 Zzzz1 Orya5 Zzzz2 Orya9 Zzzz2 Orya2 Zzzz2 Orya3 Zzzz7 Orya3 Zzzz4 Orya2
    Zzzz1 Orya5 Zzzz2 Orya18 Zzzz10 Taml2 Zzzz1 Taml6 Zzzz3 Taml3 Zzzz1 Taml4 Zzzz3 Taml2
    Zzzz1 Taml1 Zzzz1 Taml2 Zzzz3 Taml2 Zzzz3 Taml3 Zzzz3 Taml12 Zzzz4 Taml5 Zzzz3 Taml3
    Zzzz1 Taml4 Zzzz2 Taml1 Zzzz6 Taml1 Zzzz14 Taml21 Zzzz5 Telu13 Zzzz1 Telu3 Zzzz1 Telu23
    Zzzz1 Telu16 Zzzz2 Telu9 Zzzz1 Telu3 Zzzz1 Telu4 Zzzz7 Telu2 Zzzz1 Telu3 Zzzz2 Telu1
    Zzzz2 Telu4 Zzzz2 Telu10 Zzzz7 Telu9 Knda13 Zzzz1 Knda3 Zzzz1 Knda23 Zzzz1 Knda10 Zzzz1
    Knda5 Zzzz2 Knda9 Zzzz1 Knda3 Zzzz1 Knda4 Zzzz7 Knda2 Zzzz6 Knda2 Zzzz1 Knda4 Zzzz2
    Knda10 Zzzz1 Knda3 Zzzz12 Mlym13 Zzzz1 Mlym3 Zzzz1 Mlym51 Zzzz1 Mlym3 Zzzz1 Mlym6 Zzzz4
    Mlym16 Zzzz2 Mlym26 Zzzz1 Sinh3 Zzzz1 Sinh18 Zzzz3 Sinh24 Zzzz1 Sinh9 Zzzz1 Sinh1 Zzzz2
    Sinh7 Zzzz3 Sinh1 Zzzz4 Sinh6 Zzzz1 Sinh1 Zzzz1 Sinh8 Zzzz6 Sinh10 Zzzz2 Sinh3 Zzzz12
    Thai58 Zzzz4 Zyyy1 Thai28 Zzzz37 Laoo2 Zzzz1 Laoo1 Zzzz1 Laoo5 Zzzz1 Laoo24 Zzzz1 Laoo1
    Zzzz1 Laoo23 Zzzz2 Laoo5 Zzzz1 Laoo1 Zzzz1 Laoo7 Zzzz1 Laoo10 Zzzz2 Laoo4 Zzzz32 Tibt72
    Zzzz1 Tibt36 Zzzz4 Tibt39 Zzzz1 Tibt36 Zzzz1 Tibt15 Zzzz1 Tibt7 Zyyy4 Tibt2 Zzzz37
    Mymr160 Geor38 Zzzz1 Geor1 Zzzz5 Geor1 Zzzz2 Geor43 Zyyy1 Geor4 Hang256 Ethi73 Zzzz1
    Ethi4 Zzzz2 Ethi7 Zzzz1 Ethi1 Zzzz1 Ethi4 Zzzz2 Ethi41 Zzzz1 Ethi4 Zzzz2 Ethi33 Zzzz1
    Ethi4 Zzzz2 Ethi7 Zzzz1 Ethi1 Zzzz1 Ethi4 Zzzz2 Ethi15 Zzzz1 Ethi57 Zzzz1 Ethi4 Zzzz2
    Ethi67 Zzzz2 Ethi32 Zzzz3 Ethi26 Zzzz6 Cher86 Zzzz2 Cher6 Zzzz2 Cans640 Ogam29 Zzzz3
    Runr75 Zyyy3 Runr11 Zzzz7 Tglg22 Zzzz9 Tglg1 Hano21 Zyyy2 Zzzz9 Buhd20 Zzzz12 Tagb13
    Zzzz1 Tagb3 Zzzz1 Tagb2 Zzzz12 Khmr94 Zzzz2 Khmr10 Zzzz6 Khmr10 Zzzz6 Mong2 Zyyy2 Mong1
    Zyyy1 Mong20 Zzzz6 Mong89 Zzzz7 Mong43 Zzzz5 Cans70 Zzzz10 Limb31 Zzzz1 Limb12 Zzzz4
    Limb12 Zzzz4 Limb1 Zzzz3 Limb12 Tale30 Zzzz2 Tale5 Zzzz11 Talu44 Zzzz4 Talu26 Zzzz6
    Talu11 Zzzz3 Talu2 Khmr32 Bugi28 Zzzz2 Bugi2 Lana63 Zzzz1 Lana29 Zzzz2 Lana11 Zzzz6
    Lana10 Zzzz6 Lana14 Zzzz2 Zinh31 Zzzz49 Bali77 Zzzz1 Bali50 Sund64 Batk52 Zzzz8 Batk4
    Lepc56 Zzzz3 Lepc15 Zzzz3 Lepc3 Olck48 Cyrl11 Zzzz5 Geor43 Zzzz2 Geor3 Sund8 Zzzz8 Zinh3
    Zyyy1 Zinh13 Zyyy1 Zinh7 Zyyy4 Zinh1 Zyyy6 Zinh1 Zyyy3 Zinh2 Zyyy1 Zzzz5 Latn38 Grek5
    Cyrl1 Latn49 Grek5 Latn4 Grek5 Latn13 Cyrl1 Latn70 Grek1 Zinh64 Latn256 Grek22 Zzzz2
    Grek6 Zzzz2 Grek38 Zzzz2 Grek6 Zzzz2 Grek8 Zzzz1 Grek1 Zzzz1 Grek1 Zzzz1 Grek1 Zzzz1
    Grek31 Zzzz2 Grek53 Zzzz1 Grek15 Zzzz1 Grek14 Zzzz2 Grek6 Zzzz1 Grek19 Zzzz2 Grek3 Zzzz1
    Grek9 Zzzz1 Zyyy12 Zinh2 Zyyy87 Zzzz1 Zyyy11 Latn1 Zzzz2 Zyyy11 Latn1 Zyyy15 Zzzz1
    Latn13 Zzzz3 Zyyy33 Zzzz15 Zinh33 Zzzz15 Zyyy38 Grek1 Zyyy3 Latn2 Zyyy6 Latn1 Zyyy27
    Latn1 Zyyy17 Latn41 Zyyy3 Zzzz4 Zyyy666 Zzzz22 Zyyy11 Zzzz21 Zyyy928 Brai256 Zyyy628
    Zzzz2 Zyyy32 Zzzz1 Zyyy105 Glag96 Latn32 Copt116 Zzzz5 Copt7 Geor38 Zzzz1 Geor1 Zzzz5
    Geor1 Zzzz2 Tfng56 Zzzz7 Tfng2 Zzzz14 Tfng1 Ethi23 Zzzz9 Ethi7 Zzzz1 Ethi7 Zzzz1 Ethi7
    Zzzz1 Ethi7 Zzzz1 Ethi7 Zzzz1 Ethi7 Zzzz1 Ethi7 Zzzz1 Ethi7 Zzzz1 Cyrl32 Zyyy94 Zzzz34
    Hani26 Zzzz1 Hani89 Zzzz12 Hani214 Zzzz26 Zyyy21 Hani1 Zyyy1 Hani1 Zyyy25 Hani9 Zinh4
    Hang2 Zyyy8 Hani4 Zyyy4 Zzzz1 Hira86 Zzzz2 Zinh2 Zyyy2 Hira3 Zyyy1 Kana90 Zyyy2 Kana3
    Zzzz5 Bopo43 Zzzz1 Hang94 Zzzz1 Zyyy16 Bopo32 Zyyy38 Zzzz9 Zyyy1 Kana16 Hang31 Zzzz1
    Zyyy64 Hang31 Zyyy81 Kana47 Zyyy1 Kana88 Zyyy168 Hani6592 Zyyy64 Hani20992 Yiii1165
    Zzzz3 Yiii55 Zzzz9 Lisu48 Vaii300 Zzzz20 Cyrl96 Bamu88 Zzzz8 Zyyy34 Latn102 Zyyy3 Latn67
    Zzzz2 Latn2 Zzzz1 Latn1 Zzzz1 Latn8 Zzzz21 Latn14 Sylo45 Zzzz3 Zyyy10 Zzzz6 Phag56 Zzzz8
    Saur70 Zzzz8 Saur12 Zzzz6 Deva32 Kali46 Zyyy1 Kali1 Rjng36 Zzzz11 Rjng1 Hang29 Zzzz3
    Java78 Zzzz1 Zyyy1 Java10 Zzzz4 Java2 Mymr31 Zzzz1 Cham55 Zzzz9 Cham14 Zzzz2 Cham10
    Zzzz2 Cham4 Mymr32 Tavt67 Zzzz24 Tavt5 Mtei23 Zzzz10 Ethi6 Zzzz2 Ethi6 Zzzz2 Ethi6 Zzzz9
    Ethi7 Zzzz1 Ethi7 Zzzz1 Latn43 Zyyy1 Latn9 Grek1 Latn4 Zyyy2 Zzzz4 Cher80 Mtei46 Zzzz2
    Mtei10 Zzzz6 Hang11172 Zzzz12 Hang23 Zzzz4 Hang49 Zzzz8452 Hani366 Zzzz2 Hani106 Zzzz38
    Latn7 Zzzz12 Armn5 Zzzz5 Hebr26 Zzzz1 Hebr5 Zzzz1 Hebr1 Zzzz1 Hebr2 Zzzz1 Hebr2 Zzzz1
    Hebr10 Arab115 Zzzz16 Arab363 Zyyy2 Arab80 Zzzz2 Arab54 Zzzz7 Arab1 Zzzz32 Arab16 Zinh16
    Zyyy10 Zzzz6 Zinh14 Cyrl2 Zyyy35 Zzzz1 Zyyy19 Zzzz1 Zyyy4 Zzzz4 Arab5 Zzzz1 Arab135
    Zzzz2 Zyyy1 Zzzz1 Zyyy32 Latn26 Zyyy6 Latn26 Zyyy11 Kana10 Zyyy1 Kana45 Zyyy2 Hang31
    Zzzz3 Hang6 Zzzz2 Hang6 Zzzz2 Hang6 Zzzz2 Hang3 Zzzz3 Zyyy7 Zzzz1 Zyyy7 Zzzz10 Zyyy5
    Zzzz2 Linb12 Zzzz1 Linb26 Zzzz1 Linb19 Zzzz1 Linb2 Zzzz1 Linb15 Zzzz2 Linb14 Zzzz34
    Linb123 Zzzz5 Zyyy3 Zzzz4 Zyyy45 Zzzz3 Zyyy9 Grek79 Zzzz1 Zyyy13 Zzzz3 Grek1 Zzzz47
    Zyyy45 Zinh1 Zzzz130 Lyci29 Zzzz3 Cari49 Zzzz15 Zinh1 Zyyy27 Zzzz4 Ital36 Zzzz9 Ital3
    Goth27 Zzzz5 Perm43 Zzzz5 Ugar30 Zzzz1 Ugar1 Xpeo36 Zzzz4 Xpeo14 Zzzz42 Dsrt80 Shaw48
    Osma30 Zzzz2 Osma10 Zzzz6 Osge36 Zzzz4 Osge36 Zzzz4 Elba40 Zzzz8 Aghb52 Zzzz11 Aghb1
    Vith11 Zzzz1 Vith15 Zzzz1 Vith7 Zzzz1 Vith2 Zzzz1 Vith11 Zzzz1 Vith15 Zzzz1 Vith7 Zzzz1
    Vith2 Zzzz3 Todr52 Zzzz12 Lina311 Zzzz9 Lina22 Zzzz10 Lina8 Zzzz24 Latn6 Zzzz1 Latn42
    Zzzz1 Latn9 Zzzz69 Cprt6 Zzzz2 Cprt1 Zzzz1 Cprt44 Zzzz1 Cprt2 Zzzz3 Cprt1 Zzzz2 Cprt1
    Armi22 Zzzz1 Armi9 Palm32 Nbat31 Zzzz8 Nbat9 Zzzz48 Hatr19 Zzzz1 Hatr2 Zzzz5 Hatr5
    Phnx28 Zzzz3 Phnx1 Lydi26 Zzzz5 Lydi1 Zzzz64 Mero32 Merc24 Zzzz4 Merc20 Zzzz2 Merc46
    Khar4 Zzzz1 Khar2 Zzzz5 Khar8 Zzzz1 Khar3 Zzzz1 Khar29 Zzzz2 Khar3 Zzzz4 Khar10 Zzzz7
    Khar9 Zzzz7 Sarb32 Narb32 Zzzz32 Mani39 Zzzz4 Mani12 Zzzz9 Avst54 Zzzz3 Avst7 Prti22
    Zzzz2 Prti8 Phli19 Zzzz5 Phli8 Phlp18 Zzzz7 Phlp4 Zzzz12 Phlp7 Zzzz80 Orkh73 Zzzz55
    Hung51 Zzzz13 Hung51 Zzzz7 Hung6 Rohg40 Zzzz8 Rohg10 Zzzz6 Gara38 Zzzz3 Gara29 Zzzz8
    Gara2 Zzzz208 Arab31 Zzzz1 Yezi42 Zzzz1 Yezi3 Zzzz2 Yezi2 Zzzz16 Arab3 Zzzz55 Arab4
    Sogo40 Zzzz8 Sogd42 Zzzz22 Ougr26 Zzzz38 Chrs28 Zzzz20 Elym23 Zzzz9 Brah78 Zzzz4 Brah36
    Zzzz9 Brah1 Kthi67 Zzzz10 Kthi1 Zzzz2 Sora25 Zzzz7 Sora10 Zzzz6 Cakm53 Zzzz1 Cakm18
    Zzzz8 Mahj39 Zzzz9 Shrd96 Zzzz1 Sinh20 Zzzz11 Khoj18 Zzzz1 Khoj47 Zzzz62 Mult7 Zzzz1
    Mult1 Zzzz1 Mult4 Zzzz1 Mult15 Zzzz1 Mult11 Zzzz6 Sind59 Zzzz5 Sind10 Zzzz6 Gran4 Zzzz1
    Gran8 Zzzz2 Gran2 Zzzz2 Gran22 Zzzz1 Gran7 Zzzz1 Gran2 Zzzz1 Gran5 Zzzz1 Zinh1 Gran9
    Zzzz2 Gran2 Zzzz2 Gran3 Zzzz2 Gran1 Zzzz6 Gran1 Zzzz5 Gran7 Zzzz2 Gran7 Zzzz3 Gran5
    Zzzz11 Tutg10 Zzzz1 Tutg1 Zzzz2 Tutg1 Zzzz1 Tutg38 Zzzz1 Tutg10 Zzzz1 Tutg1 Zzzz2 Tutg1
    Zzzz1 Tutg4 Zzzz1 Tutg10 Zzzz1 Tutg2 Zzzz8 Tutg2 Zzzz29 Newa92 Zzzz1 Newa5 Zzzz30 Tirh72
    Zzzz8 Tirh10 Zzzz166 Sidd54 Zzzz2 Sidd38 Zzzz34 Modi69 Zzzz11 Modi10 Zzzz6 Mong13 Zzzz19
    Takr58 Zzzz6 Takr10 Zzzz6 Mymr20 Zzzz28 Ahom27 Zzzz2 Ahom15 Zzzz4 Ahom23 Zzzz185 Dogr60
    Zzzz100 Wara83 Zzzz12 Wara1 Diak7 Zzzz2 Diak1 Zzzz2 Diak8 Zzzz1 Diak2 Zzzz1 Diak30 Zzzz1
    Diak2 Zzzz2 Diak12 Zzzz9 Diak10 Zzzz70 Nand8 Zzzz2 Nand46 Zzzz2 Nand11 Zzzz27 Zanb72
    Zzzz8 Soyo83 Zzzz13 Cans16 Pauc57 Zzzz7 Deva10 Zzzz182 Sunu34 Zzzz14 Sunu10 Zzzz6 Bhks9
    Zzzz1 Bhks45 Zzzz1 Bhks14 Zzzz10 Bhks29 Zzzz3 Marc32 Zzzz2 Marc22 Zzzz1 Marc14 Zzzz73
    Gonm7 Zzzz1 Gonm2 Zzzz1 Gonm44 Zzzz3 Gonm1 Zzzz1 Gonm2 Zzzz1 Gonm9 Zzzz8 Gonm10 Zzzz6
    Gong6 Zzzz1 Gong2 Zzzz1 Gong37 Zzzz1 Gong2 Zzzz1 Gong6 Zzzz7 Gong10 Zzzz310 Maka25 Zzzz7
    Kawi17 Zzzz1 Kawi41 Zzzz3 Kawi29 Zzzz85 Lisu1 Zzzz15 Taml50 Zzzz13 Taml1 Xsux922 Zzzz102
    Xsux111 Zzzz1 Xsux5 Zzzz11 Xsux196 Zzzz2636 Cpmn99 Zzzz13 Egyp1110 Zzzz10 Egyp3995 Zzzz5
    Hluw583 Zzzz6841 Gukh58 Zzzz1734 Bamu569 Zzzz7 Mroo31 Zzzz1 Mroo10 Zzzz4 Mroo2 Tnsa79
    Zzzz1 Tnsa10 Zzzz6 Bass30 Zzzz2 Bass6 Zzzz10 Hmng70 Zzzz10 Hmng10 Zzzz1 Hmng7 Zzzz1
    Hmng21 Zzzz5 Hmng19 Zzzz432 Krai58 Zzzz198 Medf91 Zzzz101 Plrd75 Zzzz4 Plrd57 Zzzz7
    Plrd17 Zzzz64 Tang1 Nshu1 Hani2 Kits1 Zzzz11 Hani2 Zzzz14 Tang6136 Zzzz8 Tang768 Kits470
    Zzzz41 Kits1 Tang9 Zzzz8935 Kana4 Zzzz1 Kana7 Zzzz1 Kana2 Zzzz1 Kana1 Hira287 Kana3
    Zzzz15 Hira1 Zzzz29 Hira3 Zzzz2 Kana1 Zzzz14 Kana4 Zzzz8 Nshu396 Zzzz2308 Dupl107 Zzzz5
    Dupl13 Zzzz3 Dupl9 Zzzz7 Dupl10 Zzzz2 Dupl4 Zyyy4 Zzzz3932 Zyyy250 Zzzz6 Zyyy436 Zzzz76
    Zinh46 Zzzz2 Zinh23 Zzzz9 Zyyy116 Zzzz60 Zyyy246 Zzzz10 Zyyy39 Zzzz2 Zyyy62 Zinh3 Zyyy17
    Zinh8 Zyyy2 Zinh7 Zyyy30 Zinh4 Zyyy61 Zzzz21 Grek70 Zzzz122 Zyyy20 Zzzz12 Zyyy20 Zzzz12
    Zyyy87 Zzzz9 Zyyy25 Zzzz135 Zyyy85 Zzzz1 Zyyy71 Zzzz1 Zyyy2 Zzzz2 Zyyy1 Zzzz2 Zyyy2
    Zzzz2 Zyyy4 Zzzz1 Zyyy12 Zzzz1 Zyyy1 Zzzz1 Zyyy7 Zzzz1 Zyyy65 Zzzz1 Zyyy4 Zzzz2 Zyyy8
    Zzzz1 Zyyy7 Zzzz1 Zyyy28 Zzzz1 Zyyy4 Zzzz1 Zyyy5 Zzzz1 Zyyy1 Zzzz3 Zyyy7 Zzzz1 Zyyy340
    Zzzz2 Zyyy292 Zzzz2 Zyyy50 Sgnw652 Zzzz15 Sgnw5 Zzzz1 Sgnw15 Zzzz1104 Latn31 Zzzz6 Latn6
    Zzzz213 Glag7 Zzzz1 Glag17 Zzzz2 Glag7 Zzzz1 Glag2 Zzzz1 Glag5 Zzzz5 Cyrl62 Zzzz33 Cyrl1
    Zzzz112 Hmnp45 Zzzz3 Hmnp14 Zzzz2 Hmnp10 Zzzz4 Hmnp2 Zzzz320 Toto31 Zzzz17 Wcho58 Zzzz5
    Wcho1 Zzzz464 Nagm42 Zzzz214 Onao43 Zzzz4 Onao1 Zzzz480 Ethi7 Zzzz1 Ethi4 Zzzz1 Ethi2
    Zzzz1 Ethi15 Zzzz1 Mend197 Zzzz2 Mend16 Zzzz41 Adlm76 Zzzz4 Adlm10 Zzzz4 Adlm2 Zzzz785
    Zyyy68 Zzzz76 Zyyy61 Zzzz194 Arab4 Zzzz1 Arab27 Zzzz1 Arab2 Zzzz1 Arab1 Zzzz2 Arab1
    Zzzz1 Arab10 Zzzz1 Arab4 Zzzz1 Arab1 Zzzz1 Arab1 Zzzz6 Arab1 Zzzz4 Arab1 Zzzz1 Arab1
    Zzzz1 Arab1 Zzzz1 Arab3 Zzzz1 Arab2 Zzzz1 Arab1 Zzzz2 Arab1 Zzzz1 Arab1 Zzzz1 Arab1
    Zzzz1 Arab1 Zzzz1 Arab1 Zzzz1 Arab2 Zzzz1 Arab1 Zzzz2 Arab4 Zzzz1 Arab7 Zzzz1 Arab4
    Zzzz1 Arab4 Zzzz1 Arab1 Zzzz1 Arab10 Zzzz1 Arab17 Zzzz5 Arab3 Zzzz1 Arab5 Zzzz1 Arab17
    Zzzz52 Arab2 Zzzz270 Zyyy44 Zzzz4 Zyyy100 Zzzz12 Zyyy15 Zzzz2 Zyyy15 Zzzz1 Zyyy15 Zzzz1
    Zyyy37 Zzzz10 Zyyy174 Zzzz56 Zyyy26 Hira1 Zyyy2 Zzzz13 Zyyy44 Zzzz4 Zyyy9 Zzzz7 Zyyy2
    Zzzz14 Zyyy6 Zzzz154 Zyyy984 Zzzz4 Zyyy17 Zzzz3 Zyyy13 Zzzz3 Zyyy119 Zzzz4 Zyyy95 Zzzz6
    Zyyy12 Zzzz4 Zyyy1 Zzzz15 Zyyy12 Zzzz4 Zyyy56 Zzzz8 Zyyy10 Zzzz6 Zyyy40 Zzzz8 Zyyy30
    Zzzz2 Zyyy12 Zzzz4 Zyyy2 Zzzz62 Zyyy340 Zzzz12 Zyyy14 Zzzz2 Zyyy13 Zzzz3 Zyyy10 Zzzz5
    Zyyy56 Zzzz7 Zyyy15 Zzzz2 Zyyy11 Zzzz6 Zyyy9 Zzzz7 Zyyy147 Zzzz1 Zyyy102 Zzzz1030
    Hani42720 Zzzz32 Hani4154 Zzzz6 Hani222 Zzzz2 Hani5762 Zzzz14 Hani7473 Zzzz15 Hani622
    Zzzz2466 Hani542 Zzzz1506 Hani4939 Zzzz5 Hani4192 Zzzz711761 Zyyy1 Zzzz30 Zyyy96 Zzzz128
    Zinh240 Zzzz196112"

/-- The characters that are used with other scripts than their own, as run
lengths; several scripts are joined by a plus sign. -/
def sharedTable : String :=
  "None183 Avst+Cari+Copt+Dupl+Elba+Geor+Glag+Gong+Goth+Grek+Hani+Latn+Lydi+Mahj+Perm+Shaw1
    None516 Beng+Cyrl+Deva+Latn+Lisu+Thai+Toto1 None10 Bopo+Latn1 None1 Bopo+Latn3 None1
    Latn+Lisu1 None9 Latn+Thai1 None1 Bopo+Latn1 None38
    Cher+Copt+Cyrl+Grek+Latn+Perm+Sunu+Tale1 Cher+Cyrl+Grek+Latn+Osge+Sunu+Tale+Todr1
    Cher+Cyrl+Latn+Tfng1 Glag+Latn+Sunu+Syrc+Thai1
    Aghb+Cher+Copt+Cyrl+Goth+Grek+Latn+Osge+Syrc+Tfng+Todr1 Copt+Elba+Glag+Goth+Kana+Latn1
    Cyrl+Grek+Latn+Perm1 Copt+Dupl+Hebr+Latn+Perm+Syrc+Tale+Tfng+Todr1
    Armn+Cyrl+Dupl+Goth+Grek+Hebr+Latn+Perm+Syrc+Tale1 Latn+Tfng1 Dupl+Latn+Syrc1
    Cher+Cyrl+Latn+Osge1 Cher+Latn+Tale1 Latn+Sunu1 Ethi+Latn1 None1 Latn+Sunu1
    Cyrl+Latn+Todr1 None1 Grek+Latn+Perm+Todr1 None12 Latn+Syrc1 None2
    Cher+Dupl+Kana+Latn+Syrc1 Cher+Dupl+Latn+Syrc1 Latn+Syrc1 None7 Latn+Sunu+Syrc1
    Latn+Syrc1 None1 Cher+Latn+Syrc1 Aghb+Cher+Goth+Latn+Sunu+Thai1 None16 Grek1 None2 Grek1
    None18 Latn+Osge1 None5 Aghb+Latn+Todr1 None4 Latn13 None4 Copt+Grek2 None269 Cyrl+Perm1
    Cyrl+Glag1 Cyrl+Latn2 Cyrl+Glag1 None257 Armn+Geor+Glag1 None130
    Arab+Gara+Nkoo+Rohg+Syrc+Thaa+Yezi1 None14 Arab+Gara+Nkoo+Rohg+Syrc+Thaa+Yezi1
    Arab+Syrc+Thaa1 None2 Adlm+Arab+Gara+Nkoo+Rohg+Syrc+Thaa+Yezi1 None32
    Adlm+Arab+Mand+Mani+Ougr+Phlp+Rohg+Sogd+Syrc1 None10 Arab+Syrc11 None10 Arab+Thaa+Yezi10
    None6 Arab+Syrc1 None99 Arab+Rohg1 None636
    Beng+Deva+Gran+Gujr+Guru+Knda+Latn+Mlym+Nand+Newa+Orya+Shrd+Taml+Telu+Tirh1
    Beng+Deva+Gran+Gujr+Guru+Knda+Latn+Mlym+Newa+Orya+Taml+Telu+Tirh1 None17
    Beng+Deva+Dogr+Gong+Gonm+Gran+Gujr+Guru+Knda+Mahj+Mlym+Nand+Onao+Orya+Sind+Sinh+Sylo+Takr+Taml+Telu+Tirh1
    Beng+Deva+Dogr+Gong+Gonm+Gran+Gujr+Gukh+Guru+Knda+Limb+Mahj+Mlym+Nand+Onao+Orya+Sind+Sinh+Sylo+Takr+Taml+Telu+Tirh1
    Deva+Dogr+Kthi+Mahj10 None118 Beng+Cakm+Sylo10 None118 Guru+Mult10 None118 Gujr+Khoj10
    None246 Gran+Taml14 None242 Knda+Nand+Tutg10 None848 Cakm+Mymr+Tale10 None177
    Geor+Glag+Latn1 None1519 Runr3 None71 Buhd+Hano+Tagb+Tglg2 None203 Mong+Phag2 None1
    Mong+Phag1 None1226 Beng+Deva+Gran+Knda1 Deva1 Beng+Deva+Gran+Knda1 Deva+Gran+Knda1
    Deva1 Beng+Deva+Newa+Telu+Tirh1 Beng+Deva+Telu1 Deva+Newa+Shrd1 Beng+Deva+Newa+Telu1
    Deva+Shrd1 Deva+Knda+Mlym+Orya+Taml+Telu1 Deva1 Deva+Shrd2 Deva2 Deva+Shrd1 Beng+Deva1
    Deva+Newa+Tirh1 Deva6 Deva+Nand+Newa1 Beng+Deva+Shrd1 Deva+Newa1 Deva1
    Beng+Deva+Newa+Shrd1 Deva4 Beng+Deva+Gran+Knda+Mlym+Nand+Orya+Sinh+Telu+Tirh+Tutg1
    Deva+Gran1 Deva+Gran+Knda+Tutg1 Beng+Deva2 Beng1 Deva+Gran2 Nand1 None197 Grek2 None54
    Cyrl+Latn+Syrc1 None1 Syrc1 None564 Latn+Mong+Phag1 None31 Adlm+Arab1 None10
    Cari+Geor+Glag+Hung+Lyci+Orkh1 None2 Cari+Grek+Hung+Mero1 None146 Deva+Gran+Latn1
    None3366 Copt+Latn1 None24 Avst+Orkh1 Avst+Cari+Geor+Hung+Kthi+Lydi+Samr1 None10 Dupl1
    None4 Adlm+Arab+Hung1 None1 Cyrl+Glag1 None428 Hani+Tang16 None1
    Bopo+Hang+Hani+Hira+Kana+Mong+Yiii1 Bopo+Hang+Hani+Hira+Kana+Mong+Phag+Yiii1
    Bopo+Hang+Hani+Hira+Kana1 None2 Hani1 None1 Bopo+Hang+Hani+Hira+Kana+Mong+Tibt+Yiii2
    Bopo+Hang+Hani+Hira+Kana+Lisu+Mong+Tibt+Yiii2 Bopo+Hang+Hani+Hira+Kana+Yiii6 None1
    Bopo+Hang+Hani+Hira+Kana1 Bopo+Hang+Hani+Hira+Kana+Yiii8 Bopo+Hang+Hani+Hira+Kana4
    None10 Bopo+Hani4 None2 Bopo+Hang+Hani+Hira+Kana1 Hira+Kana5 None1
    Bopo+Hang+Hani+Hira+Kana1 None4 Hani+Hira+Kana2 Hani2 None89 Hira+Kana4 None3 Hira+Kana1
    None90 Bopo+Hang+Hani+Hira+Kana+Yiii1 Hira+Kana1 None147 Hani16 None32 Hani38 None9
    Hani+Tang1 None48 Hani40 None56 Hani49 None15 Hani12 None51 Hani1 None88 Hani25 None10
    Hani5 None96 Hani31 None29296 Cyrl+Glag1 None144 Hani+Latn8 None296
    Deva+Dogr+Gujr+Guru+Khoj+Knda+Kthi+Mahj+Mlym+Modi+Nand+Shrd+Sind+Takr+Tirh+Tutg3
    Deva+Dogr+Gujr+Guru+Khoj+Knda+Kthi+Mahj+Modi+Nand+Shrd+Sind+Takr+Tirh+Tutg3
    Deva+Dogr+Gujr+Guru+Khoj+Kthi+Mahj+Modi+Sind+Takr+Tirh2
    Deva+Dogr+Gujr+Guru+Khoj+Kthi+Mahj+Modi+Shrd+Sind+Takr+Tirh1
    Deva+Dogr+Gujr+Guru+Khoj+Kthi+Mahj+Modi+Sind+Takr+Tirh1 None183 Beng+Deva+Tutg1 None1
    Deva+Taml1 None58 Kali+Latn+Mymr1 None160 Bugi+Java1 None21358 Arab+Nkoo2 None178
    Arab+Thaa1 None10 Arab+Thaa1 None71 Bopo+Hang+Hani+Hira+Kana2 None282
    Bopo+Hang+Hani+Hira+Kana+Yiii5 None10 Hira+Kana1 None45 Hira+Kana2 None352
    Cpmn+Cprt+Linb2 Cprt+Linb1 None4 Cprt+Lina+Linb45 None3 Cprt+Linb9 None416 Arab+Copt28
    None2038 Mani+Ougr1 None2062 Gran+Taml1 None1 Gran+Taml1 None55 Gran+Taml2 None3219
    Gran+Taml2 None1 Gran+Taml1 None40140 Dupl4 None5820 Hani18 None7902 Hani2 None986542"

/-- The runs of the table. -/
def runs : List RunLength.Run := RunLength.runs table

/-- The runs of the table of shared characters. -/
def sharedRuns : List RunLength.Run := RunLength.runs sharedTable

/-! ## Names -/

/-- A script: its four-letter code, and its names in loose spelling. -/
structure Value where
  code : String
  names : List String

/-- The scripts. -/
def values : List Value :=
  [ ⟨"Adlm", ["adlam", "adlm"]⟩, ⟨"Aghb", ["aghb", "caucasianalbanian"]⟩, ⟨"Ahom", ["ahom"]⟩,
    ⟨"Arab", ["arab", "arabic"]⟩, ⟨"Armi", ["armi", "imperialaramaic"]⟩,
    ⟨"Armn", ["armenian", "armn"]⟩, ⟨"Avst", ["avestan", "avst"]⟩,
    ⟨"Bali", ["bali", "balinese"]⟩, ⟨"Bamu", ["bamu", "bamum"]⟩, ⟨"Bass", ["bass", "bassavah"]⟩,
    ⟨"Batk", ["batak", "batk"]⟩, ⟨"Beng", ["beng", "bengali"]⟩, ⟨"Bhks", ["bhaiksuki", "bhks"]⟩,
    ⟨"Bopo", ["bopo", "bopomofo"]⟩, ⟨"Brah", ["brah", "brahmi"]⟩, ⟨"Brai", ["brai", "braille"]⟩,
    ⟨"Bugi", ["bugi", "buginese"]⟩, ⟨"Buhd", ["buhd", "buhid"]⟩, ⟨"Cakm", ["cakm", "chakma"]⟩,
    ⟨"Cans", ["canadianaboriginal", "cans"]⟩, ⟨"Cari", ["cari", "carian"]⟩, ⟨"Cham", ["cham"]⟩,
    ⟨"Cher", ["cher", "cherokee"]⟩, ⟨"Chrs", ["chorasmian", "chrs"]⟩,
    ⟨"Copt", ["copt", "coptic", "qaac"]⟩, ⟨"Cpmn", ["cpmn", "cyprominoan"]⟩,
    ⟨"Cprt", ["cprt", "cypriot"]⟩, ⟨"Cyrl", ["cyrillic", "cyrl"]⟩,
    ⟨"Deva", ["deva", "devanagari"]⟩, ⟨"Diak", ["diak", "divesakuru"]⟩,
    ⟨"Dogr", ["dogr", "dogra"]⟩, ⟨"Dsrt", ["deseret", "dsrt"]⟩, ⟨"Dupl", ["dupl", "duployan"]⟩,
    ⟨"Egyp", ["egyp", "egyptianhieroglyphs"]⟩, ⟨"Elba", ["elba", "elbasan"]⟩,
    ⟨"Elym", ["elym", "elymaic"]⟩, ⟨"Ethi", ["ethi", "ethiopic"]⟩,
    ⟨"Geor", ["geor", "georgian"]⟩, ⟨"Glag", ["glag", "glagolitic"]⟩,
    ⟨"Gong", ["gong", "gunjalagondi"]⟩, ⟨"Gonm", ["gonm", "masaramgondi"]⟩,
    ⟨"Goth", ["goth", "gothic"]⟩, ⟨"Gran", ["gran", "grantha"]⟩, ⟨"Grek", ["greek", "grek"]⟩,
    ⟨"Gujr", ["gujarati", "gujr"]⟩, ⟨"Guru", ["gurmukhi", "guru"]⟩,
    ⟨"Hang", ["hang", "hangul"]⟩, ⟨"Hani", ["han", "hani"]⟩, ⟨"Hano", ["hano", "hanunoo"]⟩,
    ⟨"Hatr", ["hatr", "hatran"]⟩, ⟨"Hebr", ["hebr", "hebrew"]⟩, ⟨"Hira", ["hira", "hiragana"]⟩,
    ⟨"Hluw", ["anatolianhieroglyphs", "hluw"]⟩, ⟨"Hmng", ["hmng", "pahawhhmong"]⟩,
    ⟨"Hmnp", ["hmnp", "nyiakengpuachuehmong"]⟩, ⟨"Hung", ["hung", "oldhungarian"]⟩,
    ⟨"Ital", ["ital", "olditalic"]⟩, ⟨"Java", ["java", "javanese"]⟩,
    ⟨"Kali", ["kali", "kayahli"]⟩, ⟨"Kana", ["kana", "katakana"]⟩, ⟨"Kawi", ["kawi"]⟩,
    ⟨"Khar", ["khar", "kharoshthi"]⟩, ⟨"Khmr", ["khmer", "khmr"]⟩, ⟨"Khoj", ["khoj", "khojki"]⟩,
    ⟨"Kits", ["khitansmallscript", "kits"]⟩, ⟨"Knda", ["kannada", "knda"]⟩,
    ⟨"Kthi", ["kaithi", "kthi"]⟩, ⟨"Lana", ["lana", "taitham"]⟩, ⟨"Laoo", ["lao", "laoo"]⟩,
    ⟨"Latn", ["latin", "latn"]⟩, ⟨"Lepc", ["lepc", "lepcha"]⟩, ⟨"Limb", ["limb", "limbu"]⟩,
    ⟨"Lina", ["lina", "lineara"]⟩, ⟨"Linb", ["linb", "linearb"]⟩, ⟨"Lisu", ["lisu"]⟩,
    ⟨"Lyci", ["lyci", "lycian"]⟩, ⟨"Lydi", ["lydi", "lydian"]⟩, ⟨"Mahj", ["mahajani", "mahj"]⟩,
    ⟨"Maka", ["maka", "makasar"]⟩, ⟨"Mand", ["mand", "mandaic"]⟩,
    ⟨"Mani", ["mani", "manichaean"]⟩, ⟨"Marc", ["marc", "marchen"]⟩,
    ⟨"Medf", ["medefaidrin", "medf"]⟩, ⟨"Mend", ["mend", "mendekikakui"]⟩,
    ⟨"Merc", ["merc", "meroiticcursive"]⟩, ⟨"Mero", ["mero", "meroitichieroglyphs"]⟩,
    ⟨"Mlym", ["malayalam", "mlym"]⟩, ⟨"Modi", ["modi"]⟩, ⟨"Mong", ["mong", "mongolian"]⟩,
    ⟨"Mroo", ["mro", "mroo"]⟩, ⟨"Mtei", ["meeteimayek", "mtei"]⟩, ⟨"Mult", ["mult", "multani"]⟩,
    ⟨"Mymr", ["myanmar", "mymr"]⟩, ⟨"Nagm", ["nagm", "nagmundari"]⟩,
    ⟨"Nand", ["nand", "nandinagari"]⟩, ⟨"Narb", ["narb", "oldnortharabian"]⟩,
    ⟨"Nbat", ["nabataean", "nbat"]⟩, ⟨"Newa", ["newa"]⟩, ⟨"Nkoo", ["nko", "nkoo"]⟩,
    ⟨"Nshu", ["nshu", "nushu"]⟩, ⟨"Ogam", ["ogam", "ogham"]⟩, ⟨"Olck", ["olchiki", "olck"]⟩,
    ⟨"Orkh", ["oldturkic", "orkh"]⟩, ⟨"Orya", ["oriya", "orya"]⟩, ⟨"Osge", ["osage", "osge"]⟩,
    ⟨"Osma", ["osma", "osmanya"]⟩, ⟨"Ougr", ["olduyghur", "ougr"]⟩,
    ⟨"Palm", ["palm", "palmyrene"]⟩, ⟨"Pauc", ["pauc", "paucinhau"]⟩,
    ⟨"Perm", ["oldpermic", "perm"]⟩, ⟨"Phag", ["phag", "phagspa"]⟩,
    ⟨"Phli", ["inscriptionalpahlavi", "phli"]⟩, ⟨"Phlp", ["phlp", "psalterpahlavi"]⟩,
    ⟨"Phnx", ["phnx", "phoenician"]⟩, ⟨"Plrd", ["miao", "plrd"]⟩,
    ⟨"Prti", ["inscriptionalparthian", "prti"]⟩, ⟨"Rjng", ["rejang", "rjng"]⟩,
    ⟨"Rohg", ["hanifirohingya", "rohg"]⟩, ⟨"Runr", ["runic", "runr"]⟩,
    ⟨"Samr", ["samaritan", "samr"]⟩, ⟨"Sarb", ["oldsoutharabian", "sarb"]⟩,
    ⟨"Saur", ["saur", "saurashtra"]⟩, ⟨"Sgnw", ["sgnw", "signwriting"]⟩,
    ⟨"Shaw", ["shavian", "shaw"]⟩, ⟨"Shrd", ["sharada", "shrd"]⟩, ⟨"Sidd", ["sidd", "siddham"]⟩,
    ⟨"Sind", ["khudawadi", "sind"]⟩, ⟨"Sinh", ["sinh", "sinhala"]⟩,
    ⟨"Sogd", ["sogd", "sogdian"]⟩, ⟨"Sogo", ["oldsogdian", "sogo"]⟩,
    ⟨"Sora", ["sora", "sorasompeng"]⟩, ⟨"Soyo", ["soyo", "soyombo"]⟩,
    ⟨"Sund", ["sund", "sundanese"]⟩, ⟨"Sylo", ["sylo", "sylotinagri"]⟩,
    ⟨"Syrc", ["syrc", "syriac"]⟩, ⟨"Tagb", ["tagb", "tagbanwa"]⟩, ⟨"Takr", ["takr", "takri"]⟩,
    ⟨"Tale", ["taile", "tale"]⟩, ⟨"Talu", ["newtailue", "talu"]⟩, ⟨"Taml", ["tamil", "taml"]⟩,
    ⟨"Tang", ["tang", "tangut"]⟩, ⟨"Tavt", ["taiviet", "tavt"]⟩, ⟨"Telu", ["telu", "telugu"]⟩,
    ⟨"Tfng", ["tfng", "tifinagh"]⟩, ⟨"Tglg", ["tagalog", "tglg"]⟩, ⟨"Thaa", ["thaa", "thaana"]⟩,
    ⟨"Thai", ["thai"]⟩, ⟨"Tibt", ["tibetan", "tibt"]⟩, ⟨"Tirh", ["tirh", "tirhuta"]⟩,
    ⟨"Tnsa", ["tangsa", "tnsa"]⟩, ⟨"Toto", ["toto"]⟩, ⟨"Ugar", ["ugar", "ugaritic"]⟩,
    ⟨"Vaii", ["vai", "vaii"]⟩, ⟨"Vith", ["vith", "vithkuqi"]⟩, ⟨"Wara", ["wara", "warangciti"]⟩,
    ⟨"Wcho", ["wancho", "wcho"]⟩, ⟨"Xpeo", ["oldpersian", "xpeo"]⟩,
    ⟨"Xsux", ["cuneiform", "xsux"]⟩, ⟨"Yezi", ["yezi", "yezidi"]⟩, ⟨"Yiii", ["yi", "yiii"]⟩,
    ⟨"Zanb", ["zanabazarsquare", "zanb"]⟩, ⟨"Zinh", ["inherited", "qaai", "zinh"]⟩,
    ⟨"Zyyy", ["common", "zyyy"]⟩, ⟨"Gara", ["gara", "garay"]⟩,
    ⟨"Gukh", ["gukh", "gurungkhema"]⟩, ⟨"Krai", ["krai", "kiratrai"]⟩,
    ⟨"Onao", ["onao", "olonal"]⟩, ⟨"Sunu", ["sunu", "sunuwar"]⟩, ⟨"Todr", ["todr", "todhri"]⟩,
    ⟨"Tutg", ["tutg", "tulutigalari"]⟩ ]

/-- The characters of the script that a name in loose spelling asks for. -/
def named? (name : String) : Option CharSet :=
  (values.find? (·.names.contains name)).map fun v => RunLength.labelled runs (· == v.code)

/-- The characters that are used with the script that a name in loose spelling
asks for: its own ones less those that the second table gives to others, and
those that it gives to this script. -/
def usedWith? (name : String) : Option CharSet :=
  (values.find? (·.names.contains name)).map fun v =>
    ((RunLength.labelled runs (· == v.code)).diff
      (RunLength.labelled sharedRuns (· != "None"))).union
      (RunLength.labelled sharedRuns fun label => (label.splitOn "+").contains v.code)

end StatefulLexer.Script
