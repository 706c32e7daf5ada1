/-!
# Names of historic characters

The names of Unicode 14 for code points from 0x10000 to 0x1CFFF:
characters of historic scripts.

## Main Definitions

* `scriptNames` — the names of the characters of each run of code points.

## Design Notes

A name begins with a small letter that tells how many parts it has in common with the name
before it in the run, from `a` for none on; the other parts follow.  A part begins at a space
or at a hyphen.
-/

namespace PromptTree.Text

/-- The names of runs of code points, each run with its first code point. -/
def scriptNames : List (Nat × List String) :=
  [(0x10000, ["aLINEAR B SYLLABLE B008 Ad B038 Ed B028 Id B061 Od B010 Ud B001 DAd B045 DE",
      "d B007 DId B014 DOd B051 DUd B057 JAd B046 JE"]),
   (0x1000D, ["aLINEAR B SYLLABLE B036 JOd B065 JUd B077 KAd B044 KEd B067 KId B070 KOd B081 KU",
      "d B080 MAd B013 MEd B073 MId B015 MOd B023 MUd B006 NAd B024 NEd B030 NId B052 NO",
      "d B055 NUd B003 PAd B072 PEd B039 PId B011 POd B050 PUd B016 QAd B078 QEd B021 QI",
      "d B032 QO"]),
   (0x10028, ["aLINEAR B SYLLABLE B060 RAd B027 REd B053 RId B002 ROd B026 RUd B031 SAd B009 SE",
      "d B041 SId B012 SOd B058 SUd B059 TAd B004 TEd B037 TId B005 TOd B069 TUd B054 WA",
      "d B075 WEd B040 WId B042 WO"]),
   (0x1003C, ["aLINEAR B SYLLABLE B017 ZAd B074 ZE"]),
   (0x1003F, ["aLINEAR B SYLLABLE B020 ZOd B025 A2d B043 A3d B085 AUd B071 DWEd B090 DWO",
      "d B048 NWAd B029 PU2d B062 PTEd B076 RA2d B033 RA3d B068 RO2d B066 TA2d B087 TWE",
      "d B091 TWO"]),
   (0x10050, ["aLINEAR B SYMBOL B018d B019d B022d B034d B047d B049d B056d B063d B064d B079",
      "d B082d B083d B086d B089"]),
   (0x10080, ["aLINEAR B IDEOGRAM B100 MANd B102 WOMANd B104 DEERd B105 EQUIDd B105F MARE",
      "d B105M STALLIONd B106F EWEd B106M RAMd B107F SHE-GOATd B107M HE-GOATd B108F SOW",
      "d B108M BOARd B109F COWd B109M BULLd B120 WHEATd B121 BARLEYd B122 OLIVEd B123 SPICE",
      "d B125 CYPERUSc MONOGRAM B127 KAPOd B128 KANAKOc IDEOGRAM B130 OILd B131 WINEd B132",
      "c MONOGRAM B133 AREPAd B135 MERIc IDEOGRAM B140 BRONZEd B141 GOLDd B142d B145 WOOLd B146",
      "d B150d B151 HORNd B152d B153d B154c MONOGRAM B156 TURO2c IDEOGRAM B157d B158",
      "d B159 CLOTHd B160d B161d B162 GARMENTd B163 ARMOURd B164d B165d B166d B167d B168d B169",
      "d B170d B171d B172d B173 MONTHd B174d B176 TREEd B177d B178d B179d B180d B181d B182",
      "d B183d B184d B185d B189d B190d B191 HELMETd B220 FOOTSTOOLd B225 BATHTUBd B230 SPEAR",
      "d B231 ARROWd B232d B233 SWORDd B234d B236d B240 WHEELED CHARIOTd B241 CHARIOT",
      "d B242 CHARIOT FRAMEd B243 WHEELd B245d B246c MONOGRAM B247 DIPTEc IDEOGRAM B248d B249",
      "d B251d B252d B253d B254 DARTd B255d B256d B257d B258d B259d VESSEL B155e B200e B201",
      "e B202e B203e B204e B205e B206e B207e B208e B209e B210e B211e B212e B213e B214e B215",
      "e B216e B217e B218e B219e B221e B222e B226e B227e B228e B229e B250e B305"]),
   (0x10100, ["aAEGEAN WORD SEPARATOR LINEd DOTb CHECK MARK"]),
   (0x10107, ["aAEGEAN NUMBER ONEc TWOc THREEc FOURc FIVEc SIXc SEVENc EIGHTc NINEc TENc TWENTY",
      "c THIRTYc FORTYc FIFTYc SIXTYc SEVENTYc EIGHTYc NINETYc ONE HUNDREDc TWO HUNDRED",
      "c THREE HUNDREDc FOUR HUNDREDc FIVE HUNDREDc SIX HUNDREDc SEVEN HUNDREDc EIGHT HUNDRED",
      "c NINE HUNDREDc ONE THOUSANDc TWO THOUSANDc THREE THOUSANDc FOUR THOUSANDc FIVE THOUSAND",
      "c SIX THOUSANDc SEVEN THOUSANDc EIGHT THOUSANDc NINE THOUSANDc TEN THOUSAND",
      "c TWENTY THOUSANDc THIRTY THOUSANDc FORTY THOUSANDc FIFTY THOUSANDc SIXTY THOUSAND",
      "c SEVENTY THOUSANDc EIGHTY THOUSANDc NINETY THOUSAND"]),
   (0x10137, ["aAEGEAN WEIGHT BASE UNITc FIRST SUBUNITc SECOND SUBUNITc THIRD SUBUNIT",
      "c FOURTH SUBUNITb DRY MEASURE FIRST SUBUNITb LIQUID MEASURE FIRST SUBUNIT",
      "b MEASURE SECOND SUBUNITc THIRD SUBUNITaGREEK ACROPHONIC ATTIC ONE QUARTERe HALF",
      "e DRACHMAd FIVEd FIFTYd FIVE HUNDREDe THOUSANDd FIFTY THOUSANDd FIVE TALENTS",
      "d TEN TALENTSd FIFTY TALENTSd ONE HUNDRED TALENTSd FIVE HUNDRED TALENTS",
      "d ONE THOUSAND TALENTSd FIVE THOUSAND TALENTSe STATERSd TEN STATERSd FIFTY STATERS",
      "d ONE HUNDRED STATERSd FIVE HUNDRED STATERSd ONE THOUSAND STATERSd TEN THOUSAND STATERS",
      "d FIFTY THOUSAND STATERSd TEN MNASc HERAEUM ONE PLETHRONc THESPIAN ONEc HERMIONIAN ONE",
      "c EPIDAUREAN TWOc THESPIAN TWOc CYRENAIC TWO DRACHMASc EPIDAUREAN TWO DRACHMAS",
      "c TROEZENIAN FIVEd TENe ALTERNATE FORMc HERMIONIAN TENc MESSENIAN TENc THESPIAN TEN",
      "d THIRTYc TROEZENIAN FIFTYe ALTERNATE FORMc HERMIONIAN FIFTYc THESPIAN FIFTY",
      "d ONE HUNDREDd THREE HUNDREDc EPIDAUREAN FIVE HUNDREDc TROEZENIAN FIVE HUNDRED",
      "c THESPIAN FIVE HUNDREDc CARYSTIAN FIVE HUNDREDc NAXIAN FIVE HUNDRED",
      "c THESPIAN ONE THOUSANDd FIVE THOUSANDc DELPHIC FIVE MNASc STRATIAN FIFTY MNAS",
      "b ONE HALF SIGNe ALTERNATE FORMb TWO THIRDS SIGNb THREE QUARTERS SIGNb YEAR SIGN",
      "b TALENT SIGNb DRACHMA SIGNb OBOL SIGNb TWO OBOLS SIGNb THREE OBOLS SIGN",
      "b FOUR OBOLS SIGNb FIVE OBOLS SIGNb METRETES SIGNb KYATHOS BASE SIGNb LITRA SIGN",
      "b OUNKIA SIGNb XESTES SIGNb ARTABE SIGNb AROURA SIGNb GRAMMA SIGNb TRYBLION BASE SIGN",
      "b ZERO SIGNb ONE QUARTER SIGNb SINUSOID SIGNb INDICTION SIGNaNOMISMA SIGN"]),
   (0x10190, ["aROMAN SEXTANS SIGNb UNCIA SIGNb SEMUNCIA SIGNb SEXTULA SIGN",
      "b DIMIDIA SEXTULA SIGNb SILIQUA SIGNb DENARIUS SIGNb QUINARIUS SIGNb SESTERTIUS SIGN",
      "b DUPONDIUS SIGNb AS SIGNb CENTURIAL SIGNaASCIA SYMBOL"]),
   (0x101A0, ["aGREEK SYMBOL TAU RHO"]),
   (0x101D0, ["aPHAISTOS DISC SIGN PEDESTRIANd PLUMED HEADd TATTOOED HEADd CAPTIVEd CHILD",
      "d WOMANd HELMETd GAUNTLETd TIARAd ARROWd BOWd SHIELDd CLUBd MANACLESd MATTOCKd SAWd LID",
      "d BOOMERANGd CARPENTRY PLANEd DOLIUMd COMBd SLINGd COLUMNd BEEHIVEd SHIPd HORNd HIDE",
      "d BULLS LEGd CATd RAMd EAGLEd DOVEd TUNNYd BEEd PLANE TREEd VINEd PAPYRUSd ROSETTEd LILY",
      "d OX BACKd FLUTEd GRATERd STRAINERd SMALL AXEd WAVY BANDd COMBINING OBLIQUE STROKE"]),
   (0x10280, ["aLYCIAN LETTER Ac Ec Bc BHc Gc Dc Ic Wc Zc THc Jc Kc Qc Lc Mc Nc MMc NNc Uc P",
      "c KKc Rc Sc Tc TTc ANc ENc Hc X"]),
   (0x102A0, ["aCARIAN LETTER Ac P2c Dc Lc UUUc Rc LDc A2c Qc Bc Mc Oc D2c Tc SHc SH2c Sc C-18",
      "c Uc NNc Xc Nc TT2c Pc SSc Ic Ec UUUUc Kc K2c NDc UUc Gc G2c STc ST2c NGc IIc C-39c TT",
      "c UUU2c RRc MBc MB2c MB3c MB4c LD2c E2c UUU3"]),
   (0x102E0, ["aCOPTIC EPACT THOUSANDS MARKc DIGIT ONEd TWOd THREEd FOURd FIVEd SIXd SEVEN",
      "d EIGHTd NINEc NUMBER TENd TWENTYd THIRTYd FORTYd FIFTYd SIXTYd SEVENTYd EIGHTYd NINETY",
      "d ONE HUNDREDd TWO HUNDREDd THREE HUNDREDd FOUR HUNDREDd FIVE HUNDREDd SIX HUNDRED",
      "d SEVEN HUNDREDd EIGHT HUNDREDd NINE HUNDRED"]),
   (0x10300, ["aOLD ITALIC LETTER Ad BEd KEd DEd Ed VEd ZEd HEd THEd Id KAd ELd EMd ENd ESHd O",
      "d PEd SHEd KUd ERd ESd TEd Ud EKSd PHEd KHEd EFd ERSd CHEd IId UUd ESSc NUMERAL ONE",
      "d FIVEd TENd FIFTY"]),
   (0x1032D, ["aOLD ITALIC LETTER YEd NORTHERN TSEd SOUTHERN TSEaGOTHIC LETTER AHSAc BAIRKAN",
      "c GIBAc DAGSc AIHVUSc QAIRTHRAc IUJAc HAGLc THIUTHc EISc KUSMAc LAGUSc MANNAc NAUTHS",
      "c JERc URUSc PAIRTHRAc NINETYc RAIDAc SAUILc TEIWSc WINJAc FAIHUc IGGWSc HWAIRc OTHAL",
      "c NINE HUNDRED"]),
   (0x10350, ["aOLD PERMIC LETTER ANd BURd GAId DOId Ed ZHOId DZHOId ZATAd DZITAd Id KOKEd LEI",
      "d MENOEd NENOEd VOOId PEEId REId SIId TAId Ud CHERYd SHOOId SHCHOOId YRYd YERUd Od OO",
      "d EFd HAd TSIUd VERd YERd YERId YATd IEd YUd YAd IAaCOMBINING OLD PERMIC LETTER ANe DOI",
      "e ZATAe NENOEe SII"]),
   (0x10380, ["aUGARITIC LETTER ALPAc BETAc GAMLAc KHAc DELTAc HOc WOc ZETAc HOTAc TETc YOD",
      "c KAFc SHINc LAMDAc MEMc DHALc NUNc ZUc SAMKAc AINc PUc SADEc QOPAc RASHAc THANNAc GHAIN",
      "c TOc Ic Uc SSU"]),
   (0x1039F, ["aUGARITIC WORD DIVIDERaOLD PERSIAN SIGN Ad Id Ud KAd KUd GAd GUd XAd CAd JAd JI",
      "d TAd TUd DAd DId DUd THAd PAd BAd FAd NAd NUd MAd MId MUd YAd VAd VId RAd RUd LAd SA",
      "d ZAd SHAd SSAd HA"]),
   (0x103C8, ["aOLD PERSIAN SIGN AURAMAZDAAe-2d AURAMAZDAAHAd XSHAAYATHIYAd DAHYAAUSHe-2d BAGA",
      "d BUUMISHc WORD DIVIDERc NUMBER ONEd TWOd TENd TWENTYd HUNDRED"]),
   (0x10400, ["aDESERET CAPITAL LETTER LONG Ie Ee Ae AHe Oe OOd SHORT Ie Ee Ae AHe Oe OOd AY",
      "d OWd WUd YEEd Hd PEEd BEEd TEEd DEEd CHEEd JEEd KAYd GAYd EFd VEEd ETHd THEEd ESd ZEE",
      "d ESHd ZHEEd ERd ELd EMd ENd ENGd OId EWb SMALL LETTER LONG Ie Ee Ae AHe Oe OOd SHORT I",
      "e Ee Ae AHe Oe OOd AYd OWd WUd YEEd Hd PEEd BEEd TEEd DEEd CHEEd JEEd KAYd GAYd EFd VEE",
      "d ETHd THEEd ESd ZEEd ESHd ZHEEd ERd ELd EMd ENd ENGd OId EWaSHAVIAN LETTER PEEPc TOT",
      "c KICKc FEEc THIGHc SOc SUREc CHURCHc YEAc HUNGc BIBc DEADc GAGc VOWc THEYc ZOOc MEASURE",
      "c JUDGEc WOEc HA-HAc LOLLc MIMEc IFc EGGc ASHc ADOc ONc WOOLc OUTc AHc ROARc NUNc EAT",
      "c AGEc ICEc UPc OAKc OOZEc OILc AWEc AREc ORc AIRc ERRc ARRAYc EARc IANc YEW",
      "aOSMANYA LETTER ALEFc BAc TAc JAc XAc KHAc DEELc RAc SAc SHIINc DHAc CAYNc GAc FAc QAAF",
      "c KAAFc LAANc MIINc NUUNc WAWc HAc YAc Ac Ec Ic Oc Uc AAc EEc OO"]),
   (0x104A0, ["aOSMANYA DIGIT ZEROc ONEc TWOc THREEc FOURc FIVEc SIXc SEVENc EIGHTc NINE"]),
   (0x104B0, ["aOSAGE CAPITAL LETTER Ad AId AINd AHd BRAd CHAd EHCHAd Ed EINd HAd HYAd Id KA",
      "d EHKAd KYAd LAd MAd NAd Od OINd PAd EHPAd SAd SHAd TAd EHTAd TSAd EHTSAd TSHAd DHAd U",
      "d WAd KHAd GHAd ZAd ZHA"]),
   (0x104D8, ["aOSAGE SMALL LETTER Ad AId AINd AHd BRAd CHAd EHCHAd Ed EINd HAd HYAd Id KA",
      "d EHKAd KYAd LAd MAd NAd Od OINd PAd EHPAd SAd SHAd TAd EHTAd TSAd EHTSAd TSHAd DHAd U",
      "d WAd KHAd GHAd ZAd ZHA"]),
   (0x10500, ["aELBASAN LETTER Ac BEc CEc CHEc DEc NDEc DHEc EIc Ec FEc GEc GJEc HEc Ic JEc KE",
      "c LEc LLEc MEc NEc NAc NJEc Oc PEc QEc REc RREc SEc SHEc TEc THEc Uc VEc XEc Yc ZEc ZHE",
      "c GHEc GHAMMAc KHE"]),
   (0x10530, ["aCAUCASIAN ALBANIAN LETTER ALTd BETd GIMd DATd EBd ZARLd EYNd ZHILd TASd CHA",
      "d YOWDd ZHAd IRBd SHAd LANd INYAd XEYNd DYANd CARd JHOXd KARd LYITd HEYTd QAYd AORd CHOY",
      "d CHId CYAYd MAQd QARd NOWCd DZYAYd SHAKd JAYNd ONd TYAYd FAMd DZAYd CHATd PENd GHEYS",
      "d RATd SEYKd VEYZd TIWRd SHOYd IWNd CYAWd CAYNd YAYDd PIWRd KIW"]),
   (0x1056F, ["aCAUCASIAN ALBANIAN CITATION MARKaVITHKUQI CAPITAL LETTER Ad BBEd BEd CEd CHE",
      "d DEd DHEd EId Ed FEd GA"]),
   (0x1057C, ["aVITHKUQI CAPITAL LETTER HAd HHAd Id IJEd JEd KAd LAd LLAd MEd NEd NJEd Od PE",
      "d QAd RE"]),
   (0x1058C, ["aVITHKUQI CAPITAL LETTER SEd SHEd TEd THEd Ud VEd XE"]),
   (0x10594, ["aVITHKUQI CAPITAL LETTER Yd ZE"]),
   (0x10597, ["aVITHKUQI SMALL LETTER Ad BBEd BEd CEd CHEd DEd DHEd EId Ed FEd GA"]),
   (0x105A3, ["aVITHKUQI SMALL LETTER HAd HHAd Id IJEd JEd KAd LAd LLAd MEd NEd NJEd Od PEd QA",
      "d RE"]),
   (0x105B3, ["aVITHKUQI SMALL LETTER SEd SHEd TEd THEd Ud VEd XE"]),
   (0x105BB, ["aVITHKUQI SMALL LETTER Yd ZE"]),
   (0x10600, ["aLINEAR A SIGN AB001d AB002d AB003d AB004d AB005d AB006d AB007d AB008d AB009",
      "d AB010d AB011d AB013d AB016d AB017d AB020d AB021d AB021Fd AB021Md AB022d AB022Fd AB022M",
      "d AB023d AB023Md AB024d AB026d AB027d AB028d A028Bd AB029d AB030d AB031d AB034d AB037",
      "d AB038d AB039d AB040d AB041d AB044d AB045d AB046d AB047d AB048d AB049d AB050d AB051",
      "d AB053d AB054d AB055d AB056d AB057d AB058d AB059d AB060d AB061d AB065d AB066d AB067",
      "d AB069d AB070d AB073d AB074d AB076d AB077d AB078d AB079d AB080d AB081d AB082d AB085",
      "d AB086d AB087d A100-102d AB118d AB120d A120Bd AB122d AB123d AB131Ad AB131Bd A131C",
      "d AB164d AB171d AB180d AB188d AB191d A301d A302d A303d A304d A305d A306d A307d A308",
      "d A309Ad A309Bd A309Cd A310d A311d A312d A313Ad A313Bd A313Cd A314d A315d A316d A317",
      "d A318d A319d A320d A321d A322d A323d A324d A325d A326d A327d A328d A329d A330d A331",
      "d A332d A333d A334d A335d A336d A337d A338d A339d A340d A341d A342d A343d A344d A345",
      "d A346d A347d A348d A349d A350d A351d A352d A353d A354d A355d A356d A357d A358d A359",
      "d A360d A361d A362d A363d A364d A365d A366d A367d A368d A369d A370d A371d A400-VAS",
      "d A401-VASd A402-VASd A403-VASd A404-VASd A405-VASd A406-VASd A407-VASd A408-VAS",
      "d A409-VASd A410-VASd A411-VASd A412-VASd A413-VASd A414-VASd A415-VASd A416-VAS",
      "d A417-VASd A418-VASd A501d A502d A503d A504d A505d A506d A508d A509d A510d A511d A512",
      "d A513d A515d A516d A520d A521d A523d A524d A525d A526d A527d A528d A529d A530d A531",
      "d A532d A534d A535d A536d A537d A538d A539d A540d A541d A542d A545d A547d A548d A549",
      "d A550d A551d A552d A553d A554d A555d A556d A557d A559d A563d A564d A565d A566d A568",
      "d A569d A570d A571d A572d A573d A574d A575d A576d A577d A578d A579d A580d A581d A582",
      "d A583d A584d A585d A586d A587d A588d A589d A591d A592d A594d A595d A596d A598d A600",
      "d A601d A602d A603d A604d A606d A608d A609d A610d A611d A612d A613d A614d A615d A616",
      "d A617d A618d A619d A620d A621d A622d A623d A624d A626d A627d A628d A629d A634d A637",
      "d A638d A640d A642d A643d A644d A645d A646d A648d A649d A651d A652d A653d A654d A655",
      "d A656d A657d A658d A659d A660d A661d A662d A663d A664"]),
   (0x10740, ["aLINEAR A SIGN A701 Ad A702 Bd A703 Dd A704 Ed A705 Fd A706 Hd A707 Jd A708 K",
      "d A709 Le-2 L2e-3 L3e-4 L4e-6 L6d A710 Wd A711 Xd A712 Yd A713 OMEGAd A714 ABBd A715 BB",
      "d A717 DDd A726 EYYYd A732 JE"]),
   (0x10760, ["aLINEAR A SIGN A800d A801d A802d A803d A804d A805d A806d A807"]),
   (0x10780, ["aMODIFIER LETTER SMALL CAPITAL AAc SUPERSCRIPT TRIANGULAR COLON",
      "d HALF TRIANGULAR COLONc SMALL AEd CAPITAL Bd B WITH HOOK"]),
   (0x10787, ["aMODIFIER LETTER SMALL DZ DIGRAPHf WITH RETROFLEX HOOKg CURLd DEZH DIGRAPH",
      "d D WITH TAILf HOOKg AND TAILd REVERSED Ed CLOSED REVERSED OPEN Ed FENG DIGRAPH",
      "d RAMS HORNd CAPITAL Gd G WITH HOOKd CAPITAL G WITH HOOKd H WITH STROKEd CAPITAL H",
      "d HENG WITH HOOKd DOTLESS J WITH STROKE AND HOOKd LS DIGRAPHd LZ DIGRAPHd L WITH BELT",
      "d CAPITAL L WITH BELTd L WITH RETROFLEX HOOK AND BELTd LEZHe WITH RETROFLEX HOOK",
      "d TURNED Yf WITH BELTd O WITH STROKEd CAPITAL OEd CLOSED OMEGAd Q",
      "d TURNED R WITH LONG LEGi AND RETROFLEX HOOKd R WITH TAILf FISHHOOKd CAPITAL R",
      "d TC DIGRAPH WITH CURLd TS DIGRAPHf WITH RETROFLEX HOOKd TESH DIGRAPH",
      "d T WITH RETROFLEX HOOKd V WITH RIGHT HOOK"]),
   (0x107B2, ["aMODIFIER LETTER SMALL CAPITAL Yc GLOTTAL STOP WITH STROKE",
      "c REVERSED GLOTTAL STOP WITH STROKEc BILABIAL CLICKc DENTAL CLICKc LATERAL CLICK",
      "c ALVEOLAR CLICKc RETROFLEX CLICK WITH RETROFLEX HOOKc SMALL S WITH CURL"]),
   (0x10800, ["aCYPRIOT SYLLABLE Ac Ec Ic Oc Uc JA"]),
   (0x10808, ["aCYPRIOT SYLLABLE JO"]),
   (0x1080A, ["aCYPRIOT SYLLABLE KAc KEc KIc KOc KUc LAc LEc LIc LOc LUc MAc MEc MIc MOc MUc NA",
      "c NEc NIc NOc NUc PAc PEc PIc POc PUc RAc REc RIc ROc RUc SAc SEc SIc SOc SUc TAc TEc TI",
      "c TOc TUc WAc WEc WIc WO"]),
   (0x10837, ["aCYPRIOT SYLLABLE XAc XE"]),
   (0x1083C, ["aCYPRIOT SYLLABLE ZA"]),
   (0x1083F, ["aCYPRIOT SYLLABLE ZOaIMPERIAL ARAMAIC LETTER ALEPHd BETHd GIMELd DALETHd HEd WAW",
      "d ZAYINd HETHd TETHd YODHd KAPHd LAMEDHd MEMd NUNd SAMEKHd AYINd PEd SADHEd QOPHd RESH",
      "d SHINd TAW"]),
   (0x10857, ["aIMPERIAL ARAMAIC SECTION SIGNc NUMBER ONEd TWOd THREEd TENd TWENTYd ONE HUNDRED",
      "e THOUSANDd TEN THOUSANDaPALMYRENE LETTER ALEPHc BETHc GIMELc DALETHc HEc WAWc ZAYIN",
      "c HETHc TETHc YODHc KAPHc LAMEDHc MEMc FINAL NUNc NUNc SAMEKHc AYINc PEc SADHEc QOPH",
      "c RESHc SHINc TAWb LEFT-POINTING FLEURONb RIGHT-POINTING FLEURONb NUMBER ONEc TWOc THREE",
      "c FOURc FIVEc TENc TWENTYaNABATAEAN LETTER FINAL ALEPHc ALEPHc FINAL BETHc BETHc GIMEL",
      "c DALETHc FINAL HEc HEc WAWc ZAYINc HETHc TETHc FINAL YODHc YODHc FINAL KAPHc KAPH",
      "c FINAL LAMEDHc LAMEDHc FINAL MEMc MEMc FINAL NUNc NUNc SAMEKHc AYINc PEc SADHEc QOPH",
      "c RESHc FINAL SHINc SHINc TAW"]),
   (0x108A7, ["aNABATAEAN NUMBER ONEc TWOc THREEc FOURb CRUCIFORM NUMBER FOURb NUMBER FIVEc TEN",
      "c TWENTYc ONE HUNDRED"]),
   (0x108E0, ["aHATRAN LETTER ALEPHc BETHc GIMELc DALETH-RESHc HEc WAWc ZAYNc HETHc TETHc YODH",
      "c KAPHc LAMEDHc MEMc NUNc SAMEKHc AYNc PEc SADHEc QOPH"]),
   (0x108F4, ["aHATRAN LETTER SHINc TAW"]),
   (0x108FB, ["aHATRAN NUMBER ONEc FIVEc TENc TWENTYc ONE HUNDREDaPHOENICIAN LETTER ALFc BET",
      "c GAMLc DELTc HEc WAUc ZAIc HETc TETc YODc KAFc LAMDc MEMc NUNc SEMKc AINc PEc SADEc QOF",
      "c ROSHc SHINc TAUb NUMBER ONEc TENc TWENTYc ONE HUNDREDc TWOc THREE"]),
   (0x1091F, ["aPHOENICIAN WORD SEPARATORaLYDIAN LETTER Ac Bc Gc Dc Ec Vc Ic Yc Kc Lc Mc Nc O",
      "c Rc SSc Tc Uc Fc Qc Sc TTc ANc ENc LYc NNc C"]),
   (0x1093F, ["aLYDIAN TRIANGULAR MARK"]),
   (0x10980, ["aMEROITIC HIEROGLYPHIC LETTER Ad Ed Id Od YAd WAd BAe-2d PAd MAd NAe-2d NEe-2",
      "d RAe-2d LAd KHAd HHAd SAe-2d SEd KAd QAd TAe-2d TEe-2d TOd DAc SYMBOL VIDJe-2",
      "b CURSIVE LETTER Ad Ed Id Od YAd WAd BAd PAd MAd NAd NEd RAd LAd KHAd HHAd SA",
      "d ARCHAIC SAd SEd KAd QAd TAd TEd TOd DA"]),
   (0x109BC, ["aMEROITIC CURSIVE FRACTION ELEVEN TWELFTHSd ONE HALFc LOGOGRAM RMTd IMN",
      "c NUMBER ONEd TWOd THREEd FOURd FIVEd SIXd SEVENd EIGHTd NINEd TENd TWENTYd THIRTY",
      "d FORTYd FIFTYd SIXTYd SEVENTY"]),
   (0x109D2, ["aMEROITIC CURSIVE NUMBER ONE HUNDREDd TWO HUNDREDd THREE HUNDREDd FOUR HUNDRED",
      "d FIVE HUNDREDd SIX HUNDREDd SEVEN HUNDREDd EIGHT HUNDREDd NINE HUNDREDd ONE THOUSAND",
      "d TWO THOUSANDd THREE THOUSANDd FOUR THOUSANDd FIVE THOUSANDd SIX THOUSAND",
      "d SEVEN THOUSANDd EIGHT THOUSANDd NINE THOUSANDd TEN THOUSANDd TWENTY THOUSAND",
      "d THIRTY THOUSANDd FORTY THOUSANDd FIFTY THOUSANDd SIXTY THOUSANDd SEVENTY THOUSAND",
      "d EIGHTY THOUSANDd NINETY THOUSANDd ONE HUNDRED THOUSANDd TWO HUNDRED THOUSAND",
      "d THREE HUNDRED THOUSANDd FOUR HUNDRED THOUSANDd FIVE HUNDRED THOUSAND",
      "d SIX HUNDRED THOUSANDd SEVEN HUNDRED THOUSANDd EIGHT HUNDRED THOUSAND",
      "d NINE HUNDRED THOUSANDc FRACTION ONE TWELFTHd TWO TWELFTHSd THREE TWELFTHS",
      "d FOUR TWELFTHSd FIVE TWELFTHSd SIX TWELFTHSd SEVEN TWELFTHSd EIGHT TWELFTHS",
      "d NINE TWELFTHSd TEN TWELFTHSaKHAROSHTHI LETTER Ab VOWEL SIGN Id Ud VOCALIC R"]),
   (0x10A05, ["aKHAROSHTHI VOWEL SIGN Ed O"]),
   (0x10A0C, ["aKHAROSHTHI VOWEL LENGTH MARKb SIGN DOUBLE RING BELOWc ANUSVARAc VISARGA",
      "b LETTER KAc KHAc GAc GHA"]),
   (0x10A15, ["aKHAROSHTHI LETTER CAc CHAc JA"]),
   (0x10A19, ["aKHAROSHTHI LETTER NYAc TTAc TTHAc DDAc DDHAc NNAc TAc THAc DAc DHAc NAc PAc PHA",
      "c BAc BHAc MAc YAc RAc LAc VAc SHAc SSAc SAc ZAc HAc KKAc TTTHAc TTTAc VHA"]),
   (0x10A38, ["aKHAROSHTHI SIGN BAR ABOVEc CAUDAc DOT BELOW"]),
   (0x10A3F, ["aKHAROSHTHI VIRAMAb DIGIT ONEc TWOc THREEc FOURb NUMBER TENc TWENTYc ONE HUNDRED",
      "d THOUSANDb FRACTION ONE HALF"]),
   (0x10A50, ["aKHAROSHTHI PUNCTUATION DOTc SMALL CIRCLEc CIRCLEc CRESCENT BARc MANGALAMc LOTUS",
      "c DANDAc DOUBLE DANDAc LINES"]),
   (0x10A60, ["aOLD SOUTH ARABIAN LETTER HEe LAMEDHe HETHe MEMe QOPHe WAWe SHINe RESHe BETH",
      "e TAWe SATe KAPHe NUNe KHETHe SADHEe SAMEKHe FEe ALEFe AYNe DHADHEe GIMELe DALETHe GHAYN",
      "e TETHe ZAYNe DHALETHe YODHe THAWe THETHd NUMBER ONEe FIFTYd NUMERIC INDICATOR",
      "b NORTH ARABIAN LETTER HEHe LAMe HAHe MEEMe QAFe WAWe ES-2e REHe BEHe TEHe ES-1e KAF",
      "e NOONe KHAHe SADe ES-3e FEHe ALEFe AINe DADe GEEMe DALe GHAINe TAHe ZAINe THALe YEH",
      "e THEHe ZAHd NUMBER ONEe TENe TWENTY"]),
   (0x10AC0, ["aMANICHAEAN LETTER ALEPHc BETHc BHETHc GIMELc GHIMELc DALETHc HEc WAWb SIGN UD",
      "b LETTER ZAYINc ZHAYINc JAYINc JHAYINc HETHc TETHc YODHc KAPHc XAPHc KHAPHc LAMEDH",
      "c DHAMEDHc THAMEDHc MEMc NUNc SAMEKHc AYINc AAYINc PEc FEc SADHEc QOPHc XOPHc QHOPH",
      "c RESHc SHINc SSHINc TAWb ABBREVIATION MARK ABOVEd BELOW"]),
   (0x10AEB, ["aMANICHAEAN NUMBER ONEc FIVEc TENc TWENTYc ONE HUNDREDb PUNCTUATION STAR",
      "c FLEURONc DOUBLE DOT WITHIN DOTc DOT WITHIN DOTdc TWO DOTSc LINE FILLER"]),
   (0x10B00, ["aAVESTAN LETTER Ac AAc AOc AAOc ANc AANc AEc AEEc Ec EEc Oc OOc Ic IIc Uc UUc KE",
      "c XEc XYEc XVEc GEc GGEc GHEc CEc JEc TEc THEc DEc DHEc TTEc PEc FEc BEc BHEc NGEc NGYE",
      "c NGVEc NEc NYEc NNEc MEc HMEc YYEc YEc VEc REc LEc SEc ZEc SHEc ZHEc SHYEc SSHEc HE"]),
   (0x10B39, ["aAVESTAN ABBREVIATION MARKaTINY TWO DOTS OVER ONE DOT PUNCTUATION",
      "aSMALL TWO DOTS OVER ONE DOT PUNCTUATIONaLARGE TWO DOTS OVER ONE DOT PUNCTUATION",
      "b ONE DOT OVER TWO DOTS PUNCTUATIONb TWO RINGS OVER ONE RING PUNCTUATION",
      "b ONE RING OVER TWO RINGS PUNCTUATIONaINSCRIPTIONAL PARTHIAN LETTER ALEPHd BETHd GIMEL",
      "d DALETHd HEd WAWd ZAYINd HETHd TETHd YODHd KAPHd LAMEDHd MEMd NUNd SAMEKHd AYINd PE",
      "d SADHEd QOPHd RESHd SHINd TAW"]),
   (0x10B58, ["aINSCRIPTIONAL PARTHIAN NUMBER ONEd TWOd THREEd FOURd TENd TWENTYd ONE HUNDRED",
      "e THOUSANDb PAHLAVI LETTER ALEPHd BETHd GIMELd DALETHd HEd WAW-AYIN-RESHd ZAYINd HETH",
      "d TETHd YODHd KAPHd LAMEDHd MEM-QOPHd NUNd SAMEKHd PEd SADHEd SHINd TAW"]),
   (0x10B78, ["aINSCRIPTIONAL PAHLAVI NUMBER ONEd TWOd THREEd FOURd TENd TWENTYd ONE HUNDRED",
      "e THOUSANDaPSALTER PAHLAVI LETTER ALEPHd BETHd GIMELd DALETHd HEd WAW-AYIN-RESHd ZAYIN",
      "d HETHd YODHd KAPHd LAMEDHd MEM-QOPHd NUNd SAMEKHd PEd SADHEd SHINd TAW"]),
   (0x10B99, ["aPSALTER PAHLAVI SECTION MARKc TURNED SECTION MARKc FOUR DOTS WITH CROSSf DOT"]),
   (0x10BA9, ["aPSALTER PAHLAVI NUMBER ONEd TWOd THREEd FOURd TENd TWENTYd ONE HUNDRED"]),
   (0x10C00, ["aOLD TURKIC LETTER ORKHON Ad YENISEI Ae AEd ORKHON Id YENISEI Ie Ed ORKHON Oe OE",
      "d YENISEI OEd ORKHON ABd YENISEI ABd ORKHON AEBd YENISEI AEBd ORKHON AGd YENISEI AG",
      "d ORKHON AEGd YENISEI AEGd ORKHON ADd YENISEI ADd ORKHON AEDe EZd YENISEI EZd ORKHON AY",
      "d YENISEI AYd ORKHON AEYd YENISEI AEYd ORKHON AEKd YENISEI AEKd ORKHON OEKd YENISEI OEK",
      "d ORKHON ALd YENISEI ALd ORKHON AELe ELTe EMe ANe AENd YENISEI AENd ORKHON ENT",
      "d YENISEI ENTd ORKHON ENCd YENISEI ENCd ORKHON ENYd YENISEI ENYe ANGd ORKHON ENG",
      "d YENISEI AENGd ORKHON EPe OPe ICe ECd YENISEI ECd ORKHON AQd YENISEI AQd ORKHON IQ",
      "d YENISEI IQd ORKHON OQd YENISEI OQd ORKHON ARd YENISEI ARd ORKHON AERe ASe AESe ASH",
      "d YENISEI ASHd ORKHON ESHd YENISEI ESHd ORKHON ATd YENISEI ATd ORKHON AETd YENISEI AET",
      "d ORKHON OTe BASH"]),
   (0x10C80, ["aOLD HUNGARIAN CAPITAL LETTER Ae AAe EBe AMBe ECe ENCe ECSe EDe ANDe Ee CLOSE E",
      "e EEe EFe EGe EGYe EHe Ie IIe EJe EKe AKe UNKe ELe ELYe EMe ENe ENYe Oe OO",
      "e NIKOLSBURG OEe RUDIMENTA OEe OEEe EPe EMPe ERe SHORT ERe ESe ESZe ETe ENTe ETYe ECHe U",
      "e UUe NIKOLSBURG UEe RUDIMENTA UEe EVe EZe EZSe ENT-SHAPED SIGNe US"]),
   (0x10CC0, ["aOLD HUNGARIAN SMALL LETTER Ae AAe EBe AMBe ECe ENCe ECSe EDe ANDe Ee CLOSE E",
      "e EEe EFe EGe EGYe EHe Ie IIe EJe EKe AKe UNKe ELe ELYe EMe ENe ENYe Oe OO",
      "e NIKOLSBURG OEe RUDIMENTA OEe OEEe EPe EMPe ERe SHORT ERe ESe ESZe ETe ENTe ETYe ECHe U",
      "e UUe NIKOLSBURG UEe RUDIMENTA UEe EVe EZe EZSe ENT-SHAPED SIGNe US"]),
   (0x10CFA, ["aOLD HUNGARIAN NUMBER ONEd FIVEd TENd FIFTYd ONE HUNDREDe THOUSAND",
      "aHANIFI ROHINGYA LETTER Ad BAd PAd TAd TTAd JAd CAd HAd KHAd FAd DAd DDAd RAd RRAd ZA",
      "d SAd SHAd KAd GAd LAd MAd NAd WAd KINNA WAd YAd KINNA YAd NGAd NYAd VAc VOWEL Ad Id U",
      "d Ed Oc MARK SAKINd NA KHONNAc SIGN HARBAHAYd TAHALAd TANAd TASSI"]),
   (0x10D30, ["aHANIFI ROHINGYA DIGIT ZEROd ONEd TWOd THREEd FOURd FIVEd SIXd SEVENd EIGHT",
      "d NINE"]),
   (0x10E60, ["aRUMI DIGIT ONEc TWOc THREEc FOURc FIVEc SIXc SEVENc EIGHTc NINEb NUMBER TEN",
      "c TWENTYc THIRTYc FORTYc FIFTYc SIXTYc SEVENTYc EIGHTYc NINETYc ONE HUNDREDc TWO HUNDRED",
      "c THREE HUNDREDc FOUR HUNDREDc FIVE HUNDREDc SIX HUNDREDc SEVEN HUNDREDc EIGHT HUNDRED",
      "c NINE HUNDREDb FRACTION ONE HALFd QUARTERd THIRDc TWO THIRDS"]),
   (0x10E80, ["aYEZIDI LETTER ELIFc BEc PEc PHEc THEc SEc CIMc CHIMc CHHIMc HHAc XAc DALc ZAL",
      "c RAc RHAc ZAc JAc SINc SHINc SADc DADc TAc ZEc EYNc XHEYNc FAc VAd ALTERNATE FORMc QAF",
      "c KAFc KHAFc GAFc LAMc MIMc NUNc UMc WAWc OWc EWc HAYc YOTc ET"]),
   (0x10EAB, ["aYEZIDI COMBINING HAMZA MARKc MADDA MARKb HYPHENATION MARK"]),
   (0x10EB0, ["aYEZIDI LETTER LAM WITH DOT ABOVEc YOT WITH CIRCUMFLEX ABOVE"]),
   (0x10F00, ["aOLD SOGDIAN LETTER ALEPHd FINAL ALEPHd BETHd FINAL BETHd GIMELd HEd FINAL HE",
      "d WAWd ZAYINd HETHd YODHd KAPHd LAMEDHd MEMd NUNd FINAL NUNf WITH VERTICAL TAILd SAMEKH",
      "d AYINd ALTERNATE AYINd PEd SADHEd FINAL SADHEf WITH VERTICAL TAILd RESH-AYIN-DALETH",
      "d SHINd TAWd FINAL TAWf WITH VERTICAL TAILc NUMBER ONEd TWOd THREEd FOURd FIVEd TEN",
      "d TWENTYd THIRTYd ONE HUNDREDc FRACTION ONE HALFc LIGATURE AYIN-DALETH"]),
   (0x10F30, ["aSOGDIAN LETTER ALEPHc BETHc GIMELc HEc WAWc ZAYINc HETHc YODHc KAPHc LAMEDH",
      "c MEMc NUNc SAMEKHc AYINc PEc SADHEc RESH-AYINc SHINc TAWc FETHc LESHb INDEPENDENT SHIN",
      "b COMBINING DOT BELOWc TWO DOTS BELOWc DOT ABOVEc TWO DOTS ABOVEc CURVE ABOVEd BELOW",
      "c HOOK ABOVEd BELOWc LONG HOOK BELOWc RESH BELOWc STROKE BELOWb NUMBER ONEc TENc TWENTY",
      "c ONE HUNDREDb PUNCTUATION TWO VERTICAL BARSf WITH DOTSc CIRCLE WITH DOT",
      "c TWO CIRCLES WITH DOTSc HALF CIRCLE WITH DOT"]),
   (0x10F70, ["aOLD UYGHUR LETTER ALEPHd BETHd GIMEL-HETHd WAWd ZAYINd FINAL HETHd YODHd KAPH",
      "d LAMEDHd MEMd NUNd SAMEKHd PEd SADHEd RESHd SHINd TAWd LESHc COMBINING DOT ABOVEe BELOW",
      "d TWO DOTS ABOVEf BELOWc PUNCTUATION BARd TWO BARSe DOTSd FOUR DOTS"]),
   (0x10FB0, ["aCHORASMIAN LETTER ALEPHc SMALL ALEPHc BETHc GIMELc DALETHc HEc WAWc CURLED WAW",
      "c ZAYINc HETHc YODHc KAPHc LAMEDHc MEMc NUNc SAMEKHc AYINc PEc RESHc SHINc TAW",
      "b NUMBER ONEc TWOc THREEc FOURc TENc TWENTYc ONE HUNDRED"]),
   (0x10FE0, ["aELYMAIC LETTER ALEPHc BETHc GIMELc DALETHc HEc WAWc ZAYINc HETHc TETHc YODH",
      "c KAPHc LAMEDHc MEMc NUNc SAMEKHc AYINc PEc SADHEc QOPHc RESHc SHINc TAW",
      "b LIGATURE ZAYIN-YODH"]),
   (0x11000, ["aBRAHMI SIGN CANDRABINDUc ANUSVARAc VISARGAc JIHVAMULIYAc UPADHMANIYAb LETTER A",
      "c AAc Ic IIc Uc UUc VOCALIC Rd RRd Ld LLc Ec AIc Oc AUc KAc KHAc GAc GHAc NGAc CAc CHA",
      "c JAc JHAc NYAc TTAc TTHAc DDAc DDHAc NNAc TAc THAc DAc DHAc NAc PAc PHAc BAc BHAc MA",
      "c YAc RAc LAc VAc SHAc SSAc SAc HAc LLAc OLD TAMIL LLLAe RRAe NNNAb VOWEL SIGN AA",
      "d BHATTIPROLU AAd Id IId Ud UUd VOCALIC Re RRe Le LLd Ed AId Od AUb VIRAMAb DANDA",
      "b DOUBLE DANDAb PUNCTUATION DOTc DOUBLE DOTc LINEc CRESCENT BARc LOTUS"]),
   (0x11052, ["aBRAHMI NUMBER ONEc TWOc THREEc FOURc FIVEc SIXc SEVENc EIGHTc NINEc TENc TWENTY",
      "c THIRTYc FORTYc FIFTYc SIXTYc SEVENTYc EIGHTYc NINETYc ONE HUNDREDd THOUSAND",
      "b DIGIT ZEROc ONEc TWOc THREEc FOURc FIVEc SIXc SEVENc EIGHTc NINE",
      "b SIGN OLD TAMIL VIRAMAb LETTER OLD TAMIL SHORT Ef Ob VOWEL SIGN OLD TAMIL SHORT Eg O",
      "b LETTER OLD TAMIL LLA"]),
   (0x1107F, ["aBRAHMI NUMBER JOINERaKAITHI SIGN CANDRABINDUc ANUSVARAc VISARGAb LETTER Ac AA",
      "c Ic IIc Uc UUc Ec AIc Oc AUc KAc KHAc GAc GHAc NGAc CAc CHAc JAc JHAc NYAc TTAc TTHA",
      "c DDAc DDDHAc DDHAc RHAc NNAc TAc THAc DAc DHAc NAc PAc PHAc BAc BHAc MAc YAc RAc LAc VA",
      "c SHAc SSAc SAc HAb VOWEL SIGN AAd Id IId Ud UUd Ed AId Od AUb SIGN VIRAMAc NUKTA",
      "b ABBREVIATION SIGNb ENUMERATION SIGNb NUMBER SIGNb SECTION MARKb DOUBLE SECTION MARK",
      "b DANDAb DOUBLE DANDAb VOWEL SIGN VOCALIC R"]),
   (0x110CD, ["aKAITHI NUMBER SIGN ABOVE"]),
   (0x110D0, ["aSORA SOMPENG LETTER SAHd TAHd BAHd CAHd DAHd GAHd MAHd NGAHd LAHd NAHd VAHd PAH",
      "d YAHd RAHd HAHd KAHd JAHd NYAHd AHd EEHd IHd UHd OHd EHd MAE"]),
   (0x110F0, ["aSORA SOMPENG DIGIT ZEROd ONEd TWOd THREEd FOURd FIVEd SIXd SEVENd EIGHTd NINE"]),
   (0x11100, ["aCHAKMA SIGN CANDRABINDUc ANUSVARAc VISARGAb LETTER AAc Ic Uc Ec KAAc KHAAc GAA",
      "c GHAAc NGAAc CAAc CHAAc JAAc JHAAc NYAAc TTAAc TTHAAc DDAAc DDHAAc NNAAc TAAc THAAc DAA",
      "c DHAAc NAAc PAAc PHAAc BAAc BHAAc MAAc YYAAc YAAc RAAc LAAc WAAc SAAc HAAb VOWEL SIGN A",
      "d Id IId Ud UUd Ed AId Od AUd OIb O MARKb AU MARKb VIRAMAb MAAYYAA"]),
   (0x11136, ["aCHAKMA DIGIT ZEROc ONEc TWOc THREEc FOURc FIVEc SIXc SEVENc EIGHTc NINE",
      "b SECTION MARKb DANDAb DOUBLE DANDAb QUESTION MARKb LETTER LHAAb VOWEL SIGN AAd EI",
      "b LETTER VAA"]),
   (0x11150, ["aMAHAJANI LETTER Ac Ic Uc Ec Oc KAc KHAc GAc GHAc CAc CHAc JAc JHAc NYAc TTA",
      "c TTHAc DDAc DDHAc NNAc TAc THAc DAc DHAc NAc PAc PHAc BAc BHAc MAc RAc LAc VAc SAc HA",
      "c RRAb SIGN NUKTAb ABBREVIATION SIGNb SECTION MARKb LIGATURE SHRI"]),
   (0x11180, ["aSHARADA SIGN CANDRABINDUc ANUSVARAc VISARGAb LETTER Ac AAc Ic IIc Uc UU",
      "c VOCALIC Rd RRd Ld LLc Ec AIc Oc AUc KAc KHAc GAc GHAc NGAc CAc CHAc JAc JHAc NYAc TTA",
      "c TTHAc DDAc DDHAc NNAc TAc THAc DAc DHAc NAc PAc PHAc BAc BHAc MAc YAc RAc LAc LLAc VA",
      "c SHAc SSAc SAc HAb VOWEL SIGN AAd Id IId Ud UUd VOCALIC Re RRe Le LLd Ed AId Od AU",
      "b SIGN VIRAMAc AVAGRAHAc JIHVAMULIYAc UPADHMANIYAb OMb DANDAb DOUBLE DANDA",
      "b ABBREVIATION SIGNb SEPARATORb SANDHI MARKb SIGN NUKTAb VOWEL MODIFIER MARK",
      "b EXTRA SHORT VOWEL MARKb SUTRA MARKb VOWEL SIGN PRISHTHAMATRA E",
      "b SIGN INVERTED CANDRABINDUb DIGIT ZEROc ONEc TWOc THREEc FOURc FIVEc SIXc SEVENc EIGHT",
      "c NINEb EKAMb SIGN SIDDHAMb HEADSTROKEb CONTINUATION SIGNb SECTION MARK-1d-2"]),
   (0x111E1, ["aSINHALA ARCHAIC DIGIT ONEd TWOd THREEd FOURd FIVEd SIXd SEVENd EIGHTd NINE",
      "c NUMBER TENd TWENTYd THIRTYd FORTYd FIFTYd SIXTYd SEVENTYd EIGHTYd NINETYd ONE HUNDRED",
      "e THOUSAND"]),
   (0x11200, ["aKHOJKI LETTER Ac AAc Ic Uc Ec AIc Oc AUc KAc KHAc GAc GGAc GHAc NGAc CAc CHA",
      "c JAc JJA"]),
   (0x11213, ["aKHOJKI LETTER NYAc TTAc TTHAc DDAc DDHAc NNAc TAc THAc DAc DDDAc DHAc NAc PA",
      "c PHAc BAc BBAc BHAc MAc YAc RAc LAc VAc SAc HAc LLAb VOWEL SIGN AAd Id IId Ud Ed AId O",
      "d AUb SIGN ANUSVARAc VIRAMAc NUKTAc SHADDAb DANDAb DOUBLE DANDAb WORD SEPARATOR",
      "b SECTION MARKb DOUBLE SECTION MARKb ABBREVIATION SIGNb SIGN SUKUN"]),
   (0x11280, ["aMULTANI LETTER Ac Ic Uc Ec KAc KHAc GA"]),
   (0x11288, ["aMULTANI LETTER GHA"]),
   (0x1128A, ["aMULTANI LETTER CAc CHAc JAc JJA"]),
   (0x1128F, ["aMULTANI LETTER NYAc TTAc TTHAc DDAc DDDAc DDHAc NNAc TAc THAc DAc DHAc NAc PA",
      "c PHAc BA"]),
   (0x1129F, ["aMULTANI LETTER BHAc MAc YAc RAc LAc VAc SAc HAc RRAc RHAb SECTION MARK"]),
   (0x112B0, ["aKHUDAWADI LETTER Ac AAc Ic IIc Uc UUc Ec AIc Oc AUc KAc KHAc GAc GGAc GHAc NGA",
      "c CAc CHAc JAc JJAc JHAc NYAc TTAc TTHAc DDAc DDDAc RRAc DDHAc NNAc TAc THAc DAc DHAc NA",
      "c PAc PHAc BAc BBAc BHAc MAc YAc RAc LAc VAc SHAc SAc HAb SIGN ANUSVARAb VOWEL SIGN AA",
      "d Id IId Ud UUd Ed AId Od AUb SIGN NUKTAc VIRAMA"]),
   (0x112F0, ["aKHUDAWADI DIGIT ZEROc ONEc TWOc THREEc FOURc FIVEc SIXc SEVENc EIGHTc NINE"]),
   (0x11300, ["aGRANTHA SIGN COMBINING ANUSVARA ABOVEc CANDRABINDUc ANUSVARAc VISARGA"]),
   (0x11305, ["aGRANTHA LETTER Ac AAc Ic IIc Uc UUc VOCALIC Rd L"]),
   (0x1130F, ["aGRANTHA LETTER EEc AI"]),
   (0x11313, ["aGRANTHA LETTER OOc AUc KAc KHAc GAc GHAc NGAc CAc CHAc JAc JHAc NYAc TTAc TTHA",
      "c DDAc DDHAc NNAc TAc THAc DAc DHAc NA"]),
   (0x1132A, ["aGRANTHA LETTER PAc PHAc BAc BHAc MAc YAc RA"]),
   (0x11332, ["aGRANTHA LETTER LAc LLA"]),
   (0x11335, ["aGRANTHA LETTER VAc SHAc SSAc SAc HA"]),
   (0x1133B, ["aCOMBINING BINDU BELOWaGRANTHA SIGN NUKTAc AVAGRAHAb VOWEL SIGN AAd Id IId Ud UU",
      "d VOCALIC Re RR"]),
   (0x11347, ["aGRANTHA VOWEL SIGN EEd AI"]),
   (0x1134B, ["aGRANTHA VOWEL SIGN OOd AUb SIGN VIRAMA"]),
   (0x11350, ["aGRANTHA OM"]),
   (0x11357, ["aGRANTHA AU LENGTH MARK"]),
   (0x1135D, ["aGRANTHA SIGN PLUTAb LETTER VEDIC ANUSVARAd DOUBLE ANUSVARAc VOCALIC RRd LL",
      "b VOWEL SIGN VOCALIC Le LL"]),
   (0x11366, ["aCOMBINING GRANTHA DIGIT ZEROd ONEd TWOd THREEd FOURd FIVEd SIX"]),
   (0x11370, ["aCOMBINING GRANTHA LETTER Ad KAd NAd VId PA"]),
   (0x11400, ["aNEWA LETTER Ac AAc Ic IIc Uc UUc VOCALIC Rd RRd Ld LLc Ec AIc Oc AUc KAc KHA",
      "c GAc GHAc NGAc NGHAc CAc CHAc JAc JHAc NYAc NYHAc TTAc TTHAc DDAc DDHAc NNAc TAc THA",
      "c DAc DHAc NAc NHAc PAc PHAc BAc BHAc MAc MHAc YAc RAc RHAc LAc LHAc WAc SHAc SSAc SA",
      "c HAb VOWEL SIGN AAd Id IId Ud UUd VOCALIC Re RRe Le LLd Ed AId Od AUb SIGN VIRAMA",
      "c CANDRABINDUc ANUSVARAc VISARGAc NUKTAc AVAGRAHAc FINAL ANUSVARAb OMb SIDDHIb DANDA",
      "b DOUBLE DANDAb COMMAb GAP FILLERb ABBREVIATION SIGNb DIGIT ZEROc ONEc TWOc THREEc FOUR",
      "c FIVEc SIXc SEVENc EIGHTc NINEb DOUBLE COMMAb PLACEHOLDER MARK"]),
   (0x1145D, ["aNEWA INSERTION SIGNb SANDHI MARKb LETTER VEDIC ANUSVARAb SIGN JIHVAMULIYA",
      "c UPADHMANIYA"]),
   (0x11480, ["aTIRHUTA ANJIb LETTER Ac AAc Ic IIc Uc UUc VOCALIC Rd RRd Ld LLc Ec AIc Oc AU",
      "c KAc KHAc GAc GHAc NGAc CAc CHAc JAc JHAc NYAc TTAc TTHAc DDAc DDHAc NNAc TAc THAc DA",
      "c DHAc NAc PAc PHAc BAc BHAc MAc YAc RAc LAc VAc SHAc SSAc SAc HAb VOWEL SIGN AAd Id II",
      "d Ud UUd VOCALIC Re RRe Le LLd Ed SHORT Ed AId Od SHORT Od AUb SIGN CANDRABINDU",
      "c ANUSVARAc VISARGAc VIRAMAc NUKTAc AVAGRAHAb GVANGb ABBREVIATION SIGNb OM"]),
   (0x114D0, ["aTIRHUTA DIGIT ZEROc ONEc TWOc THREEc FOURc FIVEc SIXc SEVENc EIGHTc NINE"]),
   (0x11580, ["aSIDDHAM LETTER Ac AAc Ic IIc Uc UUc VOCALIC Rd RRd Ld LLc Ec AIc Oc AUc KAc KHA",
      "c GAc GHAc NGAc CAc CHAc JAc JHAc NYAc TTAc TTHAc DDAc DDHAc NNAc TAc THAc DAc DHAc NA",
      "c PAc PHAc BAc BHAc MAc YAc RAc LAc VAc SHAc SSAc SAc HAb VOWEL SIGN AAd Id IId Ud UU",
      "d VOCALIC Re RR"]),
   (0x115B8, ["aSIDDHAM VOWEL SIGN Ed AId Od AUb SIGN CANDRABINDUc ANUSVARAc VISARGAc VIRAMA",
      "c NUKTAc SIDDHAMb DANDAb DOUBLE DANDAb SEPARATOR DOTc BARb REPETITION MARK-1d-2d-3",
      "b END OF TEXT MARKb SECTION MARK WITH TRIDENT AND U-SHAPED ORNAMENTSg DOTTED CRESCENTS",
      "e RAYS AND DOTTED CRESCENTSh DOUBLE CRESCENTSh TRIPLE CRESCENTSd DOUBLE RINGf WITH RAYS",
      "d WITH DOUBLE CRESCENTSe TRIPLE CRESCENTSe QUADRUPLE CRESCENTSe SEPTUPLE CRESCENTS",
      "e CIRCLES AND RAYSg TWO ENCLOSURESg FOUR ENCLOSURESb LETTER THREE-CIRCLE ALTERNATE I",
      "c TWO-CIRCLE ALTERNATE If IIc ALTERNATE Ub VOWEL SIGN ALTERNATE Ue UU"]),
   (0x11600, ["aMODI LETTER Ac AAc Ic IIc Uc UUc VOCALIC Rd RRd Ld LLc Ec AIc Oc AUc KAc KHA",
      "c GAc GHAc NGAc CAc CHAc JAc JHAc NYAc TTAc TTHAc DDAc DDHAc NNAc TAc THAc DAc DHAc NA",
      "c PAc PHAc BAc BHAc MAc YAc RAc LAc VAc SHAc SSAc SAc HAc LLAb VOWEL SIGN AAd Id IId U",
      "d UUd VOCALIC Re RRe Le LLd Ed AId Od AUb SIGN ANUSVARAc VISARGAc VIRAMAc ARDHACANDRA",
      "b DANDAb DOUBLE DANDAb ABBREVIATION SIGNb SIGN HUVA"]),
   (0x11650, ["aMODI DIGIT ZEROc ONEc TWOc THREEc FOURc FIVEc SIXc SEVENc EIGHTc NINE"]),
   (0x11660, ["aMONGOLIAN BIRGA WITH ORNAMENTb ROTATED BIRGAb DOUBLE BIRGA WITH ORNAMENT",
      "b TRIPLE BIRGA WITH ORNAMENTb BIRGA WITH DOUBLE ORNAMENTb ROTATED BIRGA WITH ORNAMENT",
      "e DOUBLE ORNAMENTb INVERTED BIRGAd WITH DOUBLE ORNAMENTb SWIRL BIRGAd WITH ORNAMENT",
      "e DOUBLE ORNAMENTb TURNED SWIRL BIRGA WITH DOUBLE ORNAMENT"]),
   (0x11680, ["aTAKRI LETTER Ac AAc Ic IIc Uc UUc Ec AIc Oc AUc KAc KHAc GAc GHAc NGAc CAc CHA",
      "c JAc JHAc NYAc TTAc TTHAc DDAc DDHAc NNAc TAc THAc DAc DHAc NAc PAc PHAc BAc BHAc MA",
      "c YAc RAc LAc VAc SHAc SAc HAc RRAb SIGN ANUSVARAc VISARGAb VOWEL SIGN AAd Id IId Ud UU",
      "d Ed AId Od AUb SIGN VIRAMAc NUKTAb LETTER ARCHAIC KHAb ABBREVIATION SIGN"]),
   (0x116C0, ["aTAKRI DIGIT ZEROc ONEc TWOc THREEc FOURc FIVEc SIXc SEVENc EIGHTc NINE"]),
   (0x11700, ["aAHOM LETTER KAc KHAc NGAc NAc TAc ALTERNATE TAc PAc PHAc BAc MAc JAc CHAc THA",
      "c RAc LAc SAc NYAc HAc Ac DAc DHAc GAc ALTERNATE GAc GHAc BHAc JHAc ALTERNATE BA"]),
   (0x1171D, ["aAHOM CONSONANT SIGN MEDIAL LAe RAe LIGATING RAb VOWEL SIGN Ad AAd Id IId Ud UU",
      "d Ed AWd Od AId AMb SIGN KILLER"]),
   (0x11730, ["aAHOM DIGIT ZEROc ONEc TWOc THREEc FOURc FIVEc SIXc SEVENc EIGHTc NINE",
      "b NUMBER TENc TWENTYb SIGN SMALL SECTIONc SECTIONc RULAIb SYMBOL VIb LETTER CAc TTA",
      "c TTHAc DDAc DDHAc NNAc LLA"]),
   (0x11800, ["aDOGRA LETTER Ac AAc Ic IIc Uc UUc Ec AIc Oc AUc KAc KHAc GAc GHAc NGAc CAc CHA",
      "c JAc JHAc NYAc TTAc TTHAc DDAc DDHAc NNAc TAc THAc DAc DHAc NAc PAc PHAc BAc BHAc MA",
      "c YAc RAc LAc VAc SHAc SSAc SAc HAc RRAb VOWEL SIGN AAd Id IId Ud UUd VOCALIC Re RRd E",
      "d AId Od AUb SIGN ANUSVARAc VISARGAc VIRAMAc NUKTAb ABBREVIATION SIGN"]),
   (0x118A0, ["aWARANG CITI CAPITAL LETTER NGAAe Ae WIe YUe YAe YOe IIe UUe Ee Oe ANGe GAe KO",
      "e ENYe YUJe UCe ENNe ODDe TTEe NUNGe DAe ATe AMe BUe PUe HIYOe HOLOe HORRe HARe SSUU",
      "e SIIe VIYOc SMALL LETTER NGAAe Ae WIe YUe YAe YOe IIe UUe Ee Oe ANGe GAe KOe ENYe YUJ",
      "e UCe ENNe ODDe TTEe NUNGe DAe ATe AMe BUe PUe HIYOe HOLOe HORRe HARe SSUUe SIIe VIYO",
      "c DIGIT ZEROd ONEd TWOd THREEd FOURd FIVEd SIXd SEVENd EIGHTd NINEc NUMBER TENd TWENTY",
      "d THIRTYd FORTYd FIFTYd SIXTYd SEVENTYd EIGHTYd NINETY"]),
   (0x118FF, ["aWARANG CITI OMaDIVES AKURU LETTER Ad AAd Id IId Ud UUd E"]),
   (0x11909, ["aDIVES AKURU LETTER O"]),
   (0x1190C, ["aDIVES AKURU LETTER KAd KHAd GAd GHAd NGAd CAd CHAd JA"]),
   (0x11915, ["aDIVES AKURU LETTER NYAd TTA"]),
   (0x11918, ["aDIVES AKURU LETTER DDAd DDHAd NNAd TAd THAd DAd DHAd NAd PAd PHAd BAd BHAd MA",
      "d YAd YYAd RAd LAd VAd SHAd SSAd SAd HAd LLAd ZAc VOWEL SIGN AAe Ie IIe Ue UUe E"]),
   (0x11937, ["aDIVES AKURU VOWEL SIGN AIe O"]),
   (0x1193B, ["aDIVES AKURU SIGN ANUSVARAd CANDRABINDUd HALANTAc VIRAMAc PREFIXED NASAL SIGN",
      "c MEDIAL YAc INITIAL RAc MEDIAL RAc SIGN NUKTAc DOUBLE DANDAc GAP FILLER",
      "c END OF TEXT MARK"]),
   (0x11950, ["aDIVES AKURU DIGIT ZEROd ONEd TWOd THREEd FOURd FIVEd SIXd SEVENd EIGHTd NINE"]),
   (0x119A0, ["aNANDINAGARI LETTER Ac AAc Ic IIc Uc UUc VOCALIC Rd RR"]),
   (0x119AA, ["aNANDINAGARI LETTER Ec AIc Oc AUc KAc KHAc GAc GHAc NGAc CAc CHAc JAc JHAc NYA",
      "c TTAc TTHAc DDAc DDHAc NNAc TAc THAc DAc DHAc NAc PAc PHAc BAc BHAc MAc YAc RAc LAc VA",
      "c SHAc SSAc SAc HAc LLAc RRAb VOWEL SIGN AAd Id IId Ud UUd VOCALIC Re RR"]),
   (0x119DA, ["aNANDINAGARI VOWEL SIGN Ed AId Od AUb SIGN ANUSVARAc VISARGAc VIRAMAc AVAGRAHA",
      "c SIDDHAMb HEADSTROKEb VOWEL SIGN PRISHTHAMATRA E"]),
   (0x11A00, ["aZANABAZAR SQUARE LETTER Ac VOWEL SIGN Ie UEe Ue Ee OEe Oe AIe AUe REVERSED I",
      "d LENGTH MARKc LETTER KAd KHAd GAd GHAd NGAd CAd CHAd JAd NYAd TTAd TTHAd DDAd DDHAd NNA",
      "d TAd THAd DAd DHAd NAd PAd PHAd BAd BHAd MAd TSAd TSHAd DZAd DZHAd ZHAd ZAd -Ad YAd RA",
      "d LAd VAd SHAd SSAd SAd HAd KSSAc FINAL CONSONANT MARKc SIGN VIRAMAd CANDRABINDU",
      "e WITH ORNAMENTd CANDRA WITH ORNAMENTd ANUSVARAd VISARGAc CLUSTER-INITIAL LETTER RA",
      "d-FINAL LETTER YAf RAf LAf VAc INITIAL HEAD MARKc CLOSING HEAD MARKc MARK TSHEGd SHAD",
      "d DOUBLE SHADd LONG TSHEGc INITIAL DOUBLE-LINED HEAD MARK",
      "c CLOSING DOUBLE-LINED HEAD MARKc SUBJOINER"]),
   (0x11A50, ["aSOYOMBO LETTER Ab VOWEL SIGN Id UEd Ud Ed Od OEd AId AUd VOCALIC Re L",
      "c LENGTH MARKb LETTER KAc KHAc GAc GHAc NGAc CAc CHAc JAc JHAc NYAc TTAc TTHAc DDAc DDHA",
      "c NNAc TAc THAc DAc DHAc NAc PAc PHAc BAc BHAc MAc TSAc TSHAc DZAc ZHAc ZAc -Ac YAc RA",
      "c LAc VAc SHAc SSAc SAc HAc KSSAb SIGN JIHVAMULIYAc UPADHMANIYA",
      "b CLUSTER-INITIAL LETTER RAe LAe SHAe SAb FINAL CONSONANT SIGN Ge Ke NGe De Ne Be Me R",
      "e Le SHe Se -Ab SIGN ANUSVARAc VISARGAb GEMINATION MARKb SUBJOINERb MARK TSHEGc SHAD",
      "c DOUBLE SHADc PLUTAb HEAD MARK WITH MOON AND SUN AND TRIPLE FLAMEi FLAMEh",
      "b TERMINAL MARK-1d-2"]),
   (0x11AB0, ["aCANADIAN SYLLABICS NATTILIK HId HIId HOd HOOd HAd HAAd SHRId SHRIId SHROd SHROO",
      "d SHRAd SHRAAc SPEc SPIc SPOc SPAaPAU CIN HAU LETTER PAe KAe LAe MAe DAe ZAe VAe NGAe HA",
      "e GAe KHAe SAe BAe CAe TAe THAe NAe PHAe RAe FAe CHAe Ae Ee Ie Oe Ue UAe IAe FINAL Pf K",
      "f Tf Mf Nf Lf Wf NGf Yd RISING TONE LONGfd SANDHI GLOTTAL STOPd RISING TONE LONG FINAL",
      "f FINALd SANDHI GLOTTAL STOP FINALe TONE LONGff LONG FINALf FINALd MID-LEVEL TONE",
      "d GLOTTAL STOP VARIANTd MID-LEVEL TONE LONG FINALg FINALd LOW-FALLING TONE LONGg",
      "d GLOTTAL STOPd LOW-FALLING TONE LONG FINALg FINALd GLOTTAL STOP FINAL"]),
   (0x11C00, ["aBHAIKSUKI LETTER Ac AAc Ic IIc Uc UUc VOCALIC Rd RRd L"]),
   (0x11C0A, ["aBHAIKSUKI LETTER Ec AIc Oc AUc KAc KHAc GAc GHAc NGAc CAc CHAc JAc JHAc NYA",
      "c TTAc TTHAc DDAc DDHAc NNAc TAc THAc DAc DHAc NAc PAc PHAc BAc BHAc MAc YAc RAc LAc VA",
      "c SHAc SSAc SAc HAb VOWEL SIGN AAd Id IId Ud UUd VOCALIC Re RRe L"]),
   (0x11C38, ["aBHAIKSUKI VOWEL SIGN Ed AId Od AUb SIGN CANDRABINDUc ANUSVARAc VISARGAc VIRAMA",
      "c AVAGRAHAb DANDAb DOUBLE DANDAb WORD SEPARATORb GAP FILLER-1d-2"]),
   (0x11C50, ["aBHAIKSUKI DIGIT ZEROc ONEc TWOc THREEc FOURc FIVEc SIXc SEVENc EIGHTc NINE",
      "b NUMBER ONEc TWOc THREEc FOURc FIVEc SIXc SEVENc EIGHTc NINEc TENc TWENTYc THIRTY",
      "c FORTYc FIFTYc SIXTYc SEVENTYc EIGHTYc NINETYb HUNDREDS UNIT MARK"]),
   (0x11C70, ["aMARCHEN HEAD MARKb MARK SHADb LETTER KAc KHAc GAc NGAc CAc CHAc JAc NYAc TA",
      "c THAc DAc NAc PAc PHAc BAc MAc TSAc TSHAc DZAc WAc ZHAc ZAc -Ac YAc RAc LAc SHAc SAc HA",
      "c A"]),
   (0x11C92, ["aMARCHEN SUBJOINED LETTER KAd KHAd GAd NGAd CAd CHAd JAd NYAd TAd THAd DAd NA",
      "d PAd PHAd BAd MAd TSAd TSHAd DZAd WAd ZHAd ZA"]),
   (0x11CA9, ["aMARCHEN SUBJOINED LETTER YAd RAd LAd SHAd SAd HAd Ab VOWEL SIGN AAd Id Ud Ed O",
      "b SIGN ANUSVARAc CANDRABINDU"]),
   (0x11D00, ["aMASARAM GONDI LETTER Ad AAd Id IId Ud UUd E"]),
   (0x11D08, ["aMASARAM GONDI LETTER AId O"]),
   (0x11D0B, ["aMASARAM GONDI LETTER AUd KAd KHAd GAd GHAd NGAd CAd CHAd JAd JHAd NYAd TTA",
      "d TTHAd DDAd DDHAd NNAd TAd THAd DAd DHAd NAd PAd PHAd BAd BHAd MAd YAd RAd LAd VAd SHA",
      "d SSAd SAd HAd LLAd KSSAd JNYAd TRAc VOWEL SIGN AAe Ie IIe Ue UUe VOCALIC R"]),
   (0x11D3A, ["aMASARAM GONDI VOWEL SIGN E"]),
   (0x11D3C, ["aMASARAM GONDI VOWEL SIGN AIe O"]),
   (0x11D3F, ["aMASARAM GONDI VOWEL SIGN AUc SIGN ANUSVARAd VISARGAd NUKTAd CANDRAd HALANTA",
      "c VIRAMAc REPHAc RA-KARA"]),
   (0x11D50, ["aMASARAM GONDI DIGIT ZEROd ONEd TWOd THREEd FOURd FIVEd SIXd SEVENd EIGHTd NINE"]),
   (0x11D60, ["aGUNJALA GONDI LETTER Ad AAd Id IId Ud UU"]),
   (0x11D67, ["aGUNJALA GONDI LETTER EEd AI"]),
   (0x11D6A, ["aGUNJALA GONDI LETTER OOd AUd YAd VAd BAd BHAd MAd KAd KHAd TAd THAd LAd GAd GHA",
      "d DAd DHAd NAd CAd CHAd TTAd TTHAd LLAd JAd JHAd DDAd DDHAd NGAd PAd PHAd HAd RAd SA",
      "c VOWEL SIGN AAe Ie IIe Ue UU"]),
   (0x11D90, ["aGUNJALA GONDI VOWEL SIGN EEe AI"]),
   (0x11D93, ["aGUNJALA GONDI VOWEL SIGN OOe AUc SIGN ANUSVARAd VISARGAc VIRAMAc OM"]),
   (0x11DA0, ["aGUNJALA GONDI DIGIT ZEROd ONEd TWOd THREEd FOURd FIVEd SIXd SEVENd EIGHTd NINE"]),
   (0x11EE0, ["aMAKASAR LETTER KAc GAc NGAc PAc BAc MAc TAc DAc NAc CAc JAc NYAc YAc RAc LAc VA",
      "c SAc Ab ANGKAb VOWEL SIGN Id Ud Ed Ob PASSIMBANGb END OF SECTION"]),
   (0x11FB0, ["aLISU LETTER YHA"]),
   (0x11FC0, ["aTAMIL FRACTION ONE THREE-HUNDRED-AND-TWENTIETHd ONE-HUNDRED-AND-SIXTIETH",
      "d EIGHTIETHd SIXTY-FOURTHd FORTIETHd THIRTY-SECONDc THREE EIGHTIETHSd SIXTY-FOURTHS",
      "c ONE TWENTIETHd SIXTEENTH-1e-2d TENTHd EIGHTHc THREE TWENTIETHSd SIXTEENTHSc ONE FIFTH",
      "d QUARTERd HALF-1e-2c THREE QUARTERSc DOWNSCALING FACTOR KIIZHb SIGN NELc CEVITU",
      "c AAZHAAKKUc UZHAKKUc MUUVUZHAKKUc KURUNIc PATHAKKUc MUKKURUNIc KAACUc PANAMc PON",
      "c VARAAKANc PAARAMc KUZHIc VELIb WET CULTIVATION SIGNb DRY CULTIVATION SIGNb LAND SIGN",
      "b SALT PAN SIGNb TRADITIONAL CREDIT SIGNc NUMBER SIGNb CURRENT SIGNb AND ODD SIGN",
      "b SPENT SIGNb TOTAL SIGNb IN POSSESSION SIGNb STARTING FROM SIGNb SIGN MUTHALIYA",
      "c VAKAIYARAA"]),
   (0x11FFF, ["aTAMIL PUNCTUATION END OF TEXTaCUNEIFORM SIGN Ad TIMES Ae BADe GAN2 TENUe HA",
      "e IGIe LAGAR GUNUe MUSHe SAGc A2c ABd TIMES ASH2e DUN3 GUNUe GALe GAN2 TENUe HA",
      "e IGI GUNUe IMINe LAGABe SHESHe U PLUS U PLUS Ud GUNUc AB2d TIMES BALAGe GAN2 TENU",
      "e ME PLUS ENe SHA3e TAK4c ADc AKd TIMES ERIN2e SHITA PLUS GISHc ALd TIMES ALe DIM2e GISH",
      "e HAe KAD3e KIe SHEe USHc ALANc ALEPHc AMARd TIMES SHEc ANd OVER ANd THREE TIMES",
      "d PLUS NAGA OPPOSING AN PLUS NAGAf SQUAREDc ANSHEc APINc ARADd TIMES KURc ARKABc ASAL2",
      "c ASHd ZIDA TENUd KABA TENUd OVER ASH TUG2 OVER TUG2 TUG2 OVER TUG2 PAPf OVER ASH",
      "h CROSSING ASH OVER ASH OVER ASHc ASH2c ASHGABc BAc BADc BAG3c BAHAR2c BALd OVER BAL",
      "c BALAGc BARc BARA2c BId TIMES Ae GARe IGI GUNUc BUd OVER BU ABf UNd CROSSING BUc BULUG",
      "d OVER BULUGc BURc BUR2c DAc DAGd KISIM5 TIMES A PLUS MASHf AMARf BALAGf BIf GA",
      "g PLUS MASHf GIf GIR2f GUDf HAf IRg PLUS LUf KAKf LAf LUg PLUS MASH2f LUMf NE",
      "f PAP PLUS PAPf SIf TAK4f U2 PLUS GIR2f USHc DAMc DARc DARA3c DARA4c DIc DIBc DIM",
      "d TIMES SHEc DIM2c DINd KASKAL U GUNU DISHc DISHc DUd OVER DUd GUNUd SHESHIGc DUB",
      "d TIMES ESH2c DUB2c DUGc DUGUDc DUHc DUNc DUN3d GUNUe GUNUc DUN4c DUR2c Ed TIMES PAP",
      "d OVER E NUN OVER NUNc E2d TIMES A PLUS HA PLUS DAe GARe MIe SALe SHEe Uc EDINc EGIRc EL",
      "c ENd TIMES GAN2f TENUe MEd CROSSING ENd OPPOSING ENd SQUAREDc ERENc ERIN2c ESH2c EZEN",
      "d TIMES Af PLUS LALh TIMES LALe ANe BADe DUN3 GUNUg GUNUe HAf GUNUe IGI GUNUe KASKAL",
      "f SQUAREDe KU3e LAe LAL TIMES LALe LIe LUe U2e UDc GAd GUNUc GA2",
      "d TIMES A PLUS DA PLUS HAg HAg IGIe AB2 TENU PLUS TABe ANe ASHe ASH2 PLUS GALe BAD",
      "e BAR PLUS RAe BURf PLUS RAe DAe DIe DIM TIMES SHEe DUBe ELf PLUS LAe EN",
      "f TIMES GAN2 TENUe GAN2 TENUe GARe GIe GI4f PLUS Ae GIR2 PLUS SUe HA PLUS LU PLUS ESH2",
      "e HALf PLUS LAe HI PLUS LIe HUB2e IGI GUNUe ISH PLUS HU PLUS ASHe KAKe KASKALe KID",
      "f PLUS LALe KU3 PLUS ANe LAe ME PLUS ENe MIe NUNf OVER NUNe PAe SALe SARe SHEf PLUS TUR",
      "e SHIDe SUMe TAK4e Ue UDf PLUS DUd OVER GA2c GABAd CROSSING GABAc GAD",
      "d OVER GAD GAR OVER GARc GALd GAD OVER GAD GAR OVER GARc GALAMc GAMc GANc GAN2d TENU",
      "d OVER GAN2d CROSSING GAN2c GARc GAR3c GASHANc GESHTINd TIMES KURc GId TIMES Ee U",
      "d CROSSING GIc GI4d OVER GI4d CROSSING GI4c GIDIMc GIR2d GUNUc GIR3d TIMES A PLUS IGI",
      "e GAN2 TENUe IGIe LU PLUS IGIe PAc GISALc GISHd CROSSING GISHd TIMES BADe TAK4d TENUc GU",
      "d CROSSING GUc GU2d TIMES KAKf TIMES IGI GUNUe NUNe SAL PLUS TUG2d GUNUc GUD",
      "d TIMES A PLUS KURe KURd OVER GUD LUGALc GULc GUMd TIMES SHEc GURc GUR7c GURUNc GURUSH",
      "c HAd TENUd GUNUc HALc HId TIMES ASHe ASH2e BADe DISHe GADe KINe NUNe SHEe Uc HUc HUB2",
      "d TIMES ANe HALe KASKALe LISHe UDc HUL2c Id Ac IBc IDIMd OVER IDIM BURf SQUAREDc IGc IGI",
      "d DIBd RId OVER IGI SHIR OVER SHIR UD OVER UDd GUNUc ILd TIMES GAN2 TENUc IL2c IM",
      "d TIMES TAK4d CROSSING IMd OPPOSING IMd SQUAREDc IMINc INc IRc ISHc KAd TIMES Ae AD",
      "f PLUS KU3e ASH2e BADe BALAGe BARe BIe ERIN2e ESH2e GAe GALe GAN2 TENUe GAR",
      "f PLUS SHA3 PLUS Ae GIe GIR2e GISH PLUS SARf CROSSING GISHe GUe GUR7e IGIe IMe KAKe KI",
      "e KIDe LIe LUe MEf PLUS DUg GIg TEe MIf PLUS NUNUZe NEe NUNe PIe RUe SAe SARe SHAe SHE",
      "e SHIDe SHUe SIGe SUHURe TARe Ue U2e UDe UMUM TIMES PAe USHe ZIc KA2d CROSSING KA2c KAB",
      "c KAD2c KAD3c KAD4c KAD5d OVER KAD5c KAKd TIMES IGI GUNUc KALd TIMES BADd CROSSING KAL",
      "c KAM2c KAM4c KASKALd LAGAB TIMES U OVER LAGAB TIMES U",
      "d OVER KASKAL LAGAB TIMES U OVER LAGAB TIMES Uc KESH2c KId TIMES BADe Ue UDc KIDc KIN",
      "c KISALc KISHc KISIM5d OVER KISIM5c KUd OVER HI TIMES ASH2 KU OVER HI TIMES ASH2c KU3",
      "c KU4d VARIANT FORMc KU7c KULd GUNUc KUNc KURd OPPOSING KURc KUSHU2c KWU318c LAc LAGAB",
      "d TIMES Af PLUS DA PLUS HAg GARg LALe ALe ANe ASH ZIDA TENUe BADe BIe DARe ENe GAe GAR",
      "e GUDf PLUS GUDe HAe HALe HI TIMES NUNe IGI GUNUe IMf PLUS HAg LUe KIe KINe KU3e KUL",
      "f PLUS HI PLUS Ae LAGABe LISHe LUe LULe MEf PLUS ENe MUSHe NEe SHE PLUS SUM",
      "e SHITA PLUS GISH PLUS ERIN2h TENUe SHU2f PLUS SHU2e SUMe TAGe TAK4",
      "e TE PLUS A PLUS SU PLUS NAe Uf PLUS Ag U PLUS Ue U2 PLUS ASHe UDe USHd SQUAREDc LAGAR",
      "d TIMES SHEf PLUS SUMd GUNUe OVER LAGAR GUNU SHEc LAHSHUc LALd TIMES LALc LAMd TIMES KUR",
      "f PLUS RUc LIc LILc LIMMU2c LISHc LUd TIMES BADc LU2d TIMES ALe BADe ESH2f TENU",
      "e GAN2 TENUe HI TIMES BADe IMe KAD2e KAD3f PLUS ASHe KIe LA PLUS ASHe LAGABe ME PLUS EN",
      "e NEe NUe SI PLUS ASHe SIK2 PLUS BUe TUG2d TENUd CROSSING LU2d OPPOSING LU2d SQUARED",
      "d SHESHIGc LU3c LUGALd OVER LUGALd OPPOSING LUGALd SHESHIGc LUHc LULc LUMd OVER LUM",
      "f GAR OVER GARc MAd TIMES TAK4d GUNUc MA2c MAHc MARc MASHc MASH2c MEc MESc MIc MINc MU",
      "d OVER MUc MUGd GUNUc MUNSUBc MURGU2c MUSHd TIMES Ae KURe ZAd OVER MUSHf TIMES A PLUS NA",
      "d CROSSING MUSHc MUSH3d TIMES Af PLUS DIe DId GUNUc NAc NA2c NAGAd INVERTED",
      "d TIMES SHU TENUd OPPOSING NAGAc NAGARc NAM NUTILLUdc NAM2c NEd TIMES Ae UDd SHESHIGc NI",
      "d TIMES Ec NI2c NIMd TIMES GAN2 TENUe GAR PLUS GAN2 TENUc NINDA2d TIMES ANe ASH",
      "f PLUS ASHe GUDe ME PLUS GAN2 TENUe NEe NUNe SHEf PLUS A ANg ASHh PLUS ASHe U2 PLUS ASH",
      "e USHc NISAGc NUc NU11c NUNd LAGAR TIMES GARf MASHf SALg OVER NUN LAGAR TIMES SALf USH",
      "d TENUd OVER NUNd CROSSING NUNf LAGAR OVER LAGARc NUNUZd AB2 TIMES ASHGABf BIf DUGf GUD",
      "f IGI GUNUf KAD3f LAf NEf SILA3f U2d KISIM5 TIMES BIg Uc PAc PADc PANc PAPc PESH2c PI",
      "d TIMES Ae ABe BIe BUe Ee Ie IBe Ue U2d CROSSING PIc PIRIGd TIMES KALe UDe ZA",
      "d OPPOSING PIRIGc RAc RABc RIc RUc SAc SAG NUTILLUdd TIMES Ae DUe DUBe HAe KAKe KURe LUM",
      "e MIe NUNe SALe SHIDe TABe U2e UBe UMe URe USHd OVER SAGd GUNUc SALd LAGAB TIMES ASH2",
      "c SANGA2c SARc SHAc SHA3d TIMES Ae BADe GISHe NEe SHU2e TURe Uf PLUS Ac SHA6c SHAB6",
      "c SHAR2c SHEd HUd OVER SHE GAD OVER GAD GAR OVER GARf TAB OVER TAB GAR OVER GARc SHEG9",
      "c SHENc SHESHc SHESH2c SHESHLAMc SHIDd TIMES Ae IMc SHIMd TIMES Ae BALe BULUGe DINe GAR",
      "e IGIf GUNUe KUSHU2e LULe MUGe SALc SHINIGc SHIRd TENUd OVER SHIR BUR OVER BURc SHITA",
      "c SHUd OVER INVERTED SHUc SHU2c SHUBURc SId GUNUc SIGc SIG4d OVER SIG4 SHU2c SIK2c SILA3",
      "c SUd OVER SUc SUDc SUD2c SUHURc SUMc SUMASHc SURc SUR9c TAd ASTERISKd TIMES HIe MI",
      "d GUNUc TABd OVER TAB NI OVER NI DISH OVER DISHd SQUAREDc TAGd TIMES BIe GUDe SHEe SHU",
      "e TUG2e UDc TAK4c TARc TEd GUNUc TId TENUc TILc TIRd TIMES TAK4d OVER TIR",
      "f GAD OVER GAD GAR OVER GARc TUc TUG2c TUKc TUMc TURd OVER TUR ZA OVER ZAc Ud GUDd U U",
      "d OVER U PA OVER PA GAR OVER GARf SUR OVER SURf U REVERSED OVER U REVERSEDc U2c UBc UD",
      "d KUSHU2d TIMES BADe MIe U PLUS U PLUS Uj GUNUd GUNUd SHESHIGe TIMES BADc UDUGc UM",
      "d TIMES LAGABe ME PLUS DAe SHA3e Uc UMBINc UMUMd TIMES KASKALe PAc UNd GUNUc UR",
      "d CROSSING URd SHESHIGc UR2d TIMES A PLUS HAg NAe ALe HAe NUNe U2f PLUS ASHg BIc UR4",
      "c URIc URI3c URUd TIMES Ae ASHGABe BARe DUNe GAe GALe GAN2 TENUe GARe GUe HAe IGIe IM",
      "e ISHe KIe LUMe MINe PAe SHEe SIG4e TUe U PLUS GUDe UDe URUDAc URUDAd TIMES Uc USH",
      "d TIMES Ae KUe KURe TAK4c USHXc USH2c USHUMXc UTUKIc UZ3d TIMES KASKALc UZUc ZAd TENU",
      "d SQUARED TIMES KURc ZAGc ZAMXc ZE2c ZId OVER ZIc ZI3c ZIBd KABA TENUc ZIGc ZIZ2c ZU",
      "c ZU5d TIMES Ac ZUBURc ZUMc KAP ELAMITEc AB TIMES NUNc AB2 TIMES Ac AMAR TIMES KUG",
      "c DAG KISIM5 TIMES U2 PLUS MASHc DAG3c DISH PLUS SHUc DUB TIMES SHEc EZEN TIMES GUDe SHE",
      "c GA2 TIMES AN PLUS KAK PLUS Ae ASH2c GE22c GIGc HUSHc KA TIMES ANSHEe ASH3e GISHe GUD",
      "e HI TIMES ASH2e LUMe PAe SHULe TUe UR2c LAGAB TIMES GIc LU2 SHESHIG TIMES BAD",
      "d TIMES ESH2 PLUS LALe SHUc MESHc MUSH3 TIMES ZAc NA4c NINc NIN9c NINDA2 TIMES BALe GI",
      "c NU11 ROTATED NINETY DEGREESc PESH2 ASTERISKc PIR2c SAG TIMES IGI GUNUc TI2",
      "c UM TIMES MEc U U"]),
   (0x12400, ["aCUNEIFORM NUMERIC SIGN TWO ASHd THREE ASHd FOUR ASHd FIVE ASHd SIX ASH",
      "d SEVEN ASHd EIGHT ASHd NINE ASHd THREE DISHd FOUR DISHd FIVE DISHd SIX DISHd SEVEN DISH",
      "d EIGHT DISHd NINE DISHd FOUR Ud FIVE Ud SIX Ud SEVEN Ud EIGHT Ud NINE Ud ONE GESH2",
      "d TWO GESH2d THREE GESH2d FOUR GESH2d FIVE GESH2d SIX GESH2d SEVEN GESH2d EIGHT GESH2",
      "d NINE GESH2d ONE GESHUd TWO GESHUd THREE GESHUd FOUR GESHUd FIVE GESHUd TWO SHAR2",
      "d THREE SHAR2f VARIANT FORMd FOUR SHAR2d FIVE SHAR2d SIX SHAR2d SEVEN SHAR2d EIGHT SHAR2",
      "d NINE SHAR2d ONE SHARUd TWO SHARUd THREE SHARUf VARIANT FORMd FOUR SHARUd FIVE SHARU",
      "d SHAR2 TIMES GAL PLUS DISHh MINd ONE BURUd TWO BURUd THREE BURUf VARIANT FORM",
      "d FOUR BURUd FIVE BURUd THREE VARIANT FORM ESH16g ESH21d FOUR VARIANT FORM LIMMUg LIMMU4",
      "g LIMMU Ah Bd SIX VARIANT FORM ASH9d SEVEN VARIANT FORM IMIN3g IMIN Ah B",
      "d EIGHT VARIANT FORM USSUg USSU3d NINE VARIANT FORM ILIMMUg ILIMMU3g ILIMMU4g ILIMMU A",
      "d TWO ASH TENUd THREE ASH TENUd FOUR ASH TENUd FIVE ASH TENUd SIX ASH TENUd ONE BAN2",
      "d TWO BAN2d THREE BAN2d FOUR BAN2f VARIANT FORMd FIVE BAN2f VARIANT FORMd NIGIDAMIN",
      "d NIGIDAESHd ONE ESHE3d TWO ESHE3d ONE THIRD DISHd TWO THIRDS DISHd FIVE SIXTHS DISH",
      "d ONE THIRD VARIANT FORM Ad TWO THIRDS VARIANT FORM Ad ONE EIGHTH ASHe QUARTER ASH",
      "d OLD ASSYRIAN ONE SIXTHg QUARTERd ONE QUARTER GURe HALF GURd ELAMITE ONE THIRD",
      "e TWO THIRDSe FORTYe FIFTYd FOUR U VARIANT FORMd FIVE U VARIANT FORMd SIX U VARIANT FORM",
      "d SEVEN U VARIANT FORMd EIGHT U VARIANT FORMd NINE U VARIANT FORM"]),
   (0x12470, ["aCUNEIFORM PUNCTUATION SIGN OLD ASSYRIAN WORD DIVIDERd VERTICAL COLON",
      "d DIAGONAL COLONe TRICOLONe QUADCOLON"]),
   (0x12480, ["aCUNEIFORM SIGN AB TIMES NUN TENUe SHU2c AD TIMES ESH2c BAD TIMES DISH TENU",
      "c BAHAR2 TIMES AB2e NIe ZAc BU OVER BU TIMES NA2c DA TIMES TAK4c DAG TIMES KUR",
      "c DIM TIMES IGIe U U Uc DIM2 TIMES UDc DUG TIMES ANSHEe ASHf AT LEFTe DINe DUNe ERIN2",
      "e GAe GIe GIR2 GUNUe GISHe HAe HIe IGI GUNUe KASKALe KURe KUSHU2f PLUS KASKALe LAK-020",
      "e LAMf TIMES KURe LUH PLUS GISHe MASHe MESe MIe NIe PIe SHEe SI GUNUc E2 TIMES KURe PAP",
      "c ERIN2 Xc ESH2 CROSSING ESH2c EZEN SHESHIG TIMES ASHf HIf IGI GUNUf LAf LALf MEf MES",
      "f SUd TIMES SUc GA2 TIMES BAHAR2e DIM GUNUe DUG TIMES IGI GUNUg KASKALe ERENe GA",
      "e GAR PLUS DIg NEe HA PLUS Ae KUSHU2 PLUS KASKALe LAMf TIMES KURe LUHe MUSHe NEf PLUS E2",
      "g GIe SHIMe ZIZ2c GABA ROTATED NINETY DEGREESc GESHTIN TIMES U",
      "c GISH TIMES GISH CROSSING GISHc GU2 TIMES IGI GUNUc GUD PLUS GISH TIMES TAK4",
      "c HA TENU GUNUc HI TIMES ASH OVER HI TIMES ASHc KA TIMES BUe KAe U U Ue UR",
      "c LAGAB TIMES ZU OVER ZUc LAK-003d-021d-025d-030d-050d-051d-062d-079 OVER LAK-079 GUNU",
      "d-080d-081 OVER LAK-081d-092d-130d-142d-210d-219d-220d-225d-228d-238d-265d-266d-343d-347",
      "d-348d-383d-384d-390d-441d-449e TIMES GUf IGIf PAP PLUS LU3h PAP PLUS LU3f U2 PLUS BA",
      "d-450d-457d-470d-483d-490d-492d-493d-495d-550d-608d-617e TIMES ASHf BADf DUN3 GUNU GUNU",
      "f KU3f LAf TARf TEf U2f UDf URUDAd-636d-648e TIMES DUBf GAf IGIg GUNUf NI",
      "f PAP PLUS PAP PLUS LU3f SHESH PLUS KIf UDf URUDAd-724d-749c LU2 GUNU TIMES ASH",
      "d TIMES DISHe HALe PAPf PLUS PAP PLUS LU3e TAK4c MI PLUS ZA7c MUSH OVER MUSH TIMES GA",
      "g KAKc NINDA2 TIMES DIM GUNUe GISHe GULe HIe KESH2e LAK-050e MASHe PAP PLUS PAPe U",
      "f PLUS Ue URUDAc SAG GUNU TIMES HAd TIMES ENe SHE AT LEFTe TAK4c SHA6 TENUc SHE OVER SHE",
      "d PLUS HUB2e NAM2e SARc SHU2 PLUS DUG TIMES NIe E2 TIMES ANc SI TIMES TAK4",
      "c TAK4 PLUS SAGc TUM TIMES GAN2 TENUe THREE DISHc UR2 INVERTEDd TIMES UD",
      "c URU TIMES DARA3e LAK-668e LU3c ZA7c ZU OVER ZU PLUS SARc ZU5 TIMES THREE DISH TENU"]),
   (0x12F90, ["aCYPRO-MINOAN SIGN CM001d CM002d CM004d CM005d CM006d CM007d CM008d CM009d CM010",
      "d CM011d CM012d CM012Bd CM013d CM015d CM017d CM019d CM021d CM023d CM024d CM025d CM026",
      "d CM027d CM028d CM029d CM030d CM033d CM034d CM035d CM036d CM037d CM038d CM039d CM040",
      "d CM041d CM044d CM046d CM047d CM049d CM050d CM051d CM052d CM053d CM054d CM055d CM056",
      "d CM058d CM059d CM060d CM061d CM062d CM063d CM064d CM066d CM067d CM068d CM069d CM070",
      "d CM071d CM072d CM073d CM074d CM075d CM075Bd CM076d CM078d CM079d CM080d CM081d CM082",
      "d CM083d CM084d CM085d CM086d CM087d CM088d CM089d CM090d CM091d CM092d CM094d CM095",
      "d CM096d CM097d CM098d CM099d CM100d CM101d CM102d CM103d CM104d CM105d CM107d CM108",
      "d CM109d CM110d CM112d CM114d CM301d CM302"]),
   (0x13000, ["aEGYPTIAN HIEROGLYPH A001c A002c A003c A004c A005c A005Ac A006c A006Ac A006B",
      "c A007c A008c A009c A010c A011c A012c A013c A014c A014Ac A015c A016c A017c A017Ac A018",
      "c A019c A020c A021c A022c A023c A024c A025c A026c A027c A028c A029c A030c A031c A032",
      "c A032Ac A033c A034c A035c A036c A037c A038c A039c A040c A040Ac A041c A042c A042Ac A043",
      "c A043Ac A044c A045c A045Ac A046c A047c A048c A049c A050c A051c A052c A053c A054c A055",
      "c A056c A057c A058c A059c A060c A061c A062c A063c A064c A065c A066c A067c A068c A069",
      "c A070c B001c B002c B003c B004c B005c B005Ac B006c B007c B008c B009c C001c C002c C002A",
      "c C002Bc C002Cc C003c C004c C005c C006c C007c C008c C009c C010c C010Ac C011c C012c C013",
      "c C014c C015c C016c C017c C018c C019c C020c C021c C022c C023c C024c D001c D002c D003",
      "c D004c D005c D006c D007c D008c D008Ac D009c D010c D011c D012c D013c D014c D015c D016",
      "c D017c D018c D019c D020c D021c D022c D023c D024c D025c D026c D027c D027Ac D028c D029",
      "c D030c D031c D031Ac D032c D033c D034c D034Ac D035c D036c D037c D038c D039c D040c D041",
      "c D042c D043c D044c D045c D046c D046Ac D047c D048c D048Ac D049c D050c D050Ac D050B",
      "c D050Cc D050Dc D050Ec D050Fc D050Gc D050Hc D050Ic D051c D052c D052Ac D053c D054c D054A",
      "c D055c D056c D057c D058c D059c D060c D061c D062c D063c D064c D065c D066c D067c D067A",
      "c D067Bc D067Cc D067Dc D067Ec D067Fc D067Gc D067Hc E001c E002c E003c E004c E005c E006",
      "c E007c E008c E008Ac E009c E009Ac E010c E011c E012c E013c E014c E015c E016c E016Ac E017",
      "c E017Ac E018c E019c E020c E020Ac E021c E022c E023c E024c E025c E026c E027c E028c E028A",
      "c E029c E030c E031c E032c E033c E034c E034Ac E036c E037c E038c F001c F001Ac F002c F003",
      "c F004c F005c F006c F007c F008c F009c F010c F011c F012c F013c F013Ac F014c F015c F016",
      "c F017c F018c F019c F020c F021c F021Ac F022c F023c F024c F025c F026c F027c F028c F029",
      "c F030c F031c F031Ac F032c F033c F034c F035c F036c F037c F037Ac F038c F038Ac F039c F040",
      "c F041c F042c F043c F044c F045c F045Ac F046c F046Ac F047c F047Ac F048c F049c F050c F051",
      "c F051Ac F051Bc F051Cc F052c F053c G001c G002c G003c G004c G005c G006c G006Ac G007",
      "c G007Ac G007Bc G008c G009c G010c G011c G011Ac G012c G013c G014c G015c G016c G017c G018",
      "c G019c G020c G020Ac G021c G022c G023c G024c G025c G026c G026Ac G027c G028c G029c G030",
      "c G031c G032c G033c G034c G035c G036c G036Ac G037c G037Ac G038c G039c G040c G041c G042",
      "c G043c G043Ac G044c G045c G045Ac G046c G047c G048c G049c G050c G051c G052c G053c G054",
      "c H001c H002c H003c H004c H005c H006c H006Ac H007c H008c I001c I002c I003c I004c I005",
      "c I005Ac I006c I007c I008c I009c I009Ac I010c I010Ac I011c I011Ac I012c I013c I014c I015",
      "c K001c K002c K003c K004c K005c K006c K007c K008c L001c L002c L002Ac L003c L004c L005",
      "c L006c L006Ac L007c L008c M001c M001Ac M001Bc M002c M003c M003Ac M004c M005c M006c M007",
      "c M008c M009c M010c M010Ac M011c M012c M012Ac M012Bc M012Cc M012Dc M012Ec M012Fc M012G",
      "c M012Hc M013c M014c M015c M015Ac M016c M016Ac M017c M017Ac M018c M019c M020c M021c M022",
      "c M022Ac M023c M024c M024Ac M025c M026c M027c M028c M028Ac M029c M030c M031c M031Ac M032",
      "c M033c M033Ac M033Bc M034c M035c M036c M037c M038c M039c M040c M040Ac M041c M042c M043",
      "c M044c N001c N002c N003c N004c N005c N006c N007c N008c N009c N010c N011c N012c N013",
      "c N014c N015c N016c N017c N018c N018Ac N018Bc N019c N020c N021c N022c N023c N024c N025",
      "c N025Ac N026c N027c N028c N029c N030c N031c N032c N033c N033Ac N034c N034Ac N035c N035A",
      "c N036c N037c N037Ac N038c N039c N040c N041c N042c NL001c NL002c NL003c NL004c NL005",
      "c NL005Ac NL006c NL007c NL008c NL009c NL010c NL011c NL012c NL013c NL014c NL015c NL016",
      "c NL017c NL017Ac NL018c NL019c NL020c NU001c NU002c NU003c NU004c NU005c NU006c NU007",
      "c NU008c NU009c NU010c NU010Ac NU011c NU011Ac NU012c NU013c NU014c NU015c NU016c NU017",
      "c NU018c NU018Ac NU019c NU020c NU021c NU022c NU022Ac O001c O001Ac O002c O003c O004c O005",
      "c O005Ac O006c O006Ac O006Bc O006Cc O006Dc O006Ec O006Fc O007c O008c O009c O010c O010A",
      "c O010Bc O010Cc O011c O012c O013c O014c O015c O016c O017c O018c O019c O019Ac O020c O020A",
      "c O021c O022c O023c O024c O024Ac O025c O025Ac O026c O027c O028c O029c O029Ac O030c O030A",
      "c O031c O032c O033c O033Ac O034c O035c O036c O036Ac O036Bc O036Cc O036Dc O037c O038",
      "c O039c O040c O041c O042c O043c O044c O045c O046c O047c O048c O049c O050c O050Ac O050B",
      "c O051c P001c P001Ac P002c P003c P003Ac P004c P005c P006c P007c P008c P009c P010c P011",
      "c Q001c Q002c Q003c Q004c Q005c Q006c Q007c R001c R002c R002Ac R003c R003Ac R003Bc R004",
      "c R005c R006c R007c R008c R009c R010c R010Ac R011c R012c R013c R014c R015c R016c R016A",
      "c R017c R018c R019c R020c R021c R022c R023c R024c R025c R026c R027c R028c R029c S001",
      "c S002c S002Ac S003c S004c S005c S006c S006Ac S007c S008c S009c S010c S011c S012c S013",
      "c S014c S014Ac S014Bc S015c S016c S017c S017Ac S018c S019c S020c S021c S022c S023c S024",
      "c S025c S026c S026Ac S026Bc S027c S028c S029c S030c S031c S032c S033c S034c S035c S035A",
      "c S036c S037c S038c S039c S040c S041c S042c S043c S044c S045c S046c T001c T002c T003",
      "c T003Ac T004c T005c T006c T007c T007Ac T008c T008Ac T009c T009Ac T010c T011c T011A",
      "c T012c T013c T014c T015c T016c T016Ac T017c T018c T019c T020c T021c T022c T023c T024",
      "c T025c T026c T027c T028c T029c T030c T031c T032c T032Ac T033c T033Ac T034c T035c T036",
      "c U001c U002c U003c U004c U005c U006c U006Ac U006Bc U007c U008c U009c U010c U011c U012",
      "c U013c U014c U015c U016c U017c U018c U019c U020c U021c U022c U023c U023Ac U024c U025",
      "c U026c U027c U028c U029c U029Ac U030c U031c U032c U032Ac U033c U034c U035c U036c U037",
      "c U038c U039c U040c U041c U042c V001c V001Ac V001Bc V001Cc V001Dc V001Ec V001Fc V001G",
      "c V001Hc V001Ic V002c V002Ac V003c V004c V005c V006c V007c V007Ac V007Bc V008c V009",
      "c V010c V011c V011Ac V011Bc V011Cc V012c V012Ac V012Bc V013c V014c V015c V016c V017",
      "c V018c V019c V020c V020Ac V020Bc V020Cc V020Dc V020Ec V020Fc V020Gc V020Hc V020Ic V020J",
      "c V020Kc V020Lc V021c V022c V023c V023Ac V024c V025c V026c V027c V028c V028Ac V029",
      "c V029Ac V030c V030Ac V031c V031Ac V032c V033c V033Ac V034c V035c V036c V037c V037A",
      "c V038c V039c V040c V040Ac W001c W002c W003c W003Ac W004c W005c W006c W007c W008c W009",
      "c W009Ac W010c W010Ac W011c W012c W013c W014c W014Ac W015c W016c W017c W017Ac W018",
      "c W018Ac W019c W020c W021c W022c W023c W024c W024Ac W025c X001c X002c X003c X004c X004A",
      "c X004Bc X005c X006c X006Ac X007c X008c X008Ac Y001c Y001Ac Y002c Y003c Y004c Y005c Y006",
      "c Y007c Y008c Z001c Z002c Z002Ac Z002Bc Z002Cc Z002Dc Z003c Z003Ac Z003Bc Z004c Z004A",
      "c Z005c Z005Ac Z006c Z007c Z008c Z009c Z010c Z011c Z012c Z013c Z014c Z015c Z015Ac Z015B",
      "c Z015Cc Z015Dc Z015Ec Z015Fc Z015Gc Z015Hc Z015Ic Z016c Z016Ac Z016Bc Z016Cc Z016D",
      "c Z016Ec Z016Fc Z016Gc Z016Hc AA001c AA002c AA003c AA004c AA005c AA006c AA007c AA007A",
      "c AA007Bc AA008c AA009c AA010c AA011c AA012c AA013c AA014c AA015c AA016c AA017c AA018",
      "c AA019c AA020c AA021c AA022c AA023c AA024c AA025c AA026c AA027c AA028c AA029c AA030",
      "c AA031c AA032"]),
   (0x13430, ["aEGYPTIAN HIEROGLYPH VERTICAL JOINERc HORIZONTAL JOINERc INSERT AT TOP START",
      "e BOTTOM STARTe TOP ENDe BOTTOM ENDc OVERLAY MIDDLEc BEGIN SEGMENTc END SEGMENT"]),
   (0x14400, ["aANATOLIAN HIEROGLYPH A001c A002c A003c A004c A005c A006c A007c A008c A009c A010",
      "c A010Ac A011c A012c A013c A014c A015c A016c A017c A018c A019c A020c A021c A022c A023",
      "c A024c A025c A026c A026Ac A027c A028c A029c A030c A031c A032c A033c A034c A035c A036",
      "c A037c A038c A039c A039Ac A040c A041c A041Ac A042c A043c A044c A045c A045Ac A046c A046A",
      "c A046Bc A047c A048c A049c A050c A051c A052c A053c A054c A055c A056c A057c A058c A059",
      "c A060c A061c A062c A063c A064c A065c A066c A066Ac A066Bc A066Cc A067c A068c A069c A070",
      "c A071c A072c A073c A074c A075c A076c A077c A078c A079c A080c A081c A082c A083c A084",
      "c A085c A086c A087c A088c A089c A090c A091c A092c A093c A094c A095c A096c A097c A097A",
      "c A098c A098Ac A099c A100c A100Ac A101c A101Ac A102c A102Ac A103c A104c A104Ac A104B",
      "c A104Cc A105c A105Ac A105Bc A106c A107c A107Ac A107Bc A107Cc A108c A109c A110c A110A",
      "c A110Bc A111c A112c A113c A114c A115c A115Ac A116c A117c A118c A119c A120c A121c A122",
      "c A123c A124c A125c A125Ac A126c A127c A128c A129c A130c A131c A132c A133c A134c A135",
      "c A135Ac A136c A137c A138c A139c A140c A141c A142c A143c A144c A145c A146c A147c A148",
      "c A149c A150c A151c A152c A153c A154c A155c A156c A157c A158c A159c A160c A161c A162",
      "c A163c A164c A165c A166c A167c A168c A169c A170c A171c A172c A173c A174c A175c A176",
      "c A177c A178c A179c A180c A181c A182c A183c A184c A185c A186c A187c A188c A189c A190",
      "c A191c A192c A193c A194c A195c A196c A197c A198c A199c A200c A201c A202c A202Ac A202B",
      "c A203c A204c A205c A206c A207c A207Ac A208c A209c A209Ac A210c A211c A212c A213c A214",
      "c A215c A215Ac A216c A216Ac A217c A218c A219c A220c A221c A222c A223c A224c A225c A226",
      "c A227c A227Ac A228c A229c A230c A231c A232c A233c A234c A235c A236c A237c A238c A239",
      "c A240c A241c A242c A243c A244c A245c A246c A247c A248c A249c A250c A251c A252c A253",
      "c A254c A255c A256c A257c A258c A259c A260c A261c A262c A263c A264c A265c A266c A267",
      "c A267Ac A268c A269c A270c A271c A272c A273c A274c A275c A276c A277c A278c A279c A280",
      "c A281c A282c A283c A284c A285c A286c A287c A288c A289c A289Ac A290c A291c A292c A293",
      "c A294c A294Ac A295c A296c A297c A298c A299c A299Ac A300c A301c A302c A303c A304c A305",
      "c A306c A307c A308c A309c A309Ac A310c A311c A312c A313c A314c A315c A316c A317c A318",
      "c A319c A320c A321c A322c A323c A324c A325c A326c A327c A328c A329c A329Ac A330c A331",
      "c A332Ac A332Bc A332Cc A333c A334c A335c A336c A336Ac A336Bc A336Cc A337c A338c A339",
      "c A340c A341c A342c A343c A344c A345c A346c A347c A348c A349c A350c A351c A352c A353",
      "c A354c A355c A356c A357c A358c A359c A359Ac A360c A361c A362c A363c A364c A364Ac A365",
      "c A366c A367c A368c A368Ac A369c A370c A371c A371Ac A372c A373c A374c A375c A376c A377",
      "c A378c A379c A380c A381c A381Ac A382c A383 RA OR RIc A383Ac A384c A385c A386c A386A",
      "c A387c A388c A389c A390c A391c A392c A393 EIGHTc A394c A395c A396c A397c A398c A399",
      "c A400c A401c A402c A403c A404c A405c A406c A407c A408c A409c A410 BEGIN LOGOGRAM MARK",
      "c A410A END LOGOGRAM MARKc A411c A412c A413c A414c A415c A416c A417c A418c A419c A420",
      "c A421c A422c A423c A424c A425c A426c A427c A428c A429c A430c A431c A432c A433c A434",
      "c A435c A436c A437c A438c A439c A440c A441c A442c A443c A444c A445c A446c A447c A448",
      "c A449c A450c A450Ac A451c A452c A453c A454c A455c A456c A457c A457Ac A458c A459c A460",
      "c A461c A462c A463c A464c A465c A466c A467c A468c A469c A470c A471c A472c A473c A474",
      "c A475c A476c A477c A478c A479c A480c A481c A482c A483c A484c A485c A486c A487c A488",
      "c A489c A490c A491c A492c A493c A494c A495c A496c A497c A501c A502c A503c A504c A505",
      "c A506c A507c A508c A509c A510c A511c A512c A513c A514c A515c A516c A517c A518c A519",
      "c A520c A521c A522c A523c A524c A525c A526c A527c A528c A529c A530"]),
   (0x16800, ["aBAMUM LETTER PHASE-A NGKUE MFONe GBIEE FONe PON MFON PIPAEMGBIEEg PIPAEMBA",
      "e NAA MFONe SHUENSHUETe TITA MFONe NZA MFONe SHINDA PA NJIe PON PA NJI PIPAEMGBIEE",
      "h PIPAEMBAe MAEMBGBIEEe TU MAEMBAe NGANGUe MAEMVEUXe MANSUAEe MVEUAENGAMe SEUNYAM",
      "e NTOQPENe KEUKEUTNDAe NKINDIe SUUe NGKUENZEUMe LAPAQe LET KUTe NTAP MFAAe MAEKEUP",
      "e PASHAEe GHEUAERAEe PAMSHAEe MON NGGEUAETe NZUN MEUTe U YUQ NAEe GHEUAEGHEUAE",
      "e NTAP NTAAe SISAe MGBASAe MEUNJOMNDEUQe MOOMPUQe KAFAe PA LEERAEWAe NDA LEERAEWAe PET",
      "e MAEMKPENe NIKAe PUPe TUAEPe LUAEPe SONJAMe TEUTEUWENe MAENYIe KETe NDAANGGEUAETe KUOQ",
      "e MOOMEUTe SHUMe LOMMAEe FIRIe ROMe KPOQe SOQe MAP PIEETe SHIRAEe NTAPe SHOQ NSHUT YUM",
      "e NYIT MONGKEUAEQe PAARAEe NKAARAEe UNKNOWNe NGGENe MAESIe NJAMe MBANYIe NYETe TEUAEN",
      "e SOTe PAAMe NSHIEEe MAEMe NYIe KAQe NSHAe VEEe LUe NENe NAQe MBAQd-B NSHUET",
      "e TU MAEMGBIEEe SIEEe SET TUe LOM NTEUMe MBA MAELEEe KIEEMe YEURAEe MBAARAEe KAMe PEESHI",
      "e YAFU LEERAEWAe LAM NSHUT NYAMe NTIEE SHEUOQe NDU NJAAe GHEUGHEUAEMe PITe TU NSIEE",
      "e SHET NJAQe SHEUAEQTUe MFON TEUAEQe MBIT MBAAKETe NYI NTEUMe KEUPUQe GHEUGHENe KEUYEUX",
      "e LAANAEe PARUMe VEUMe NGKINDI MVOPe NGGEU MBUe WUAETe SAKEUAEe TAAMe MEUQe NGGUOQ",
      "f LARGEe MFIYAQe SUEe MBEURIe MONTIEENe NYAEMAEe PUNGAAMe MEUT NGGEETe FEUXe MBUOQe FEE",
      "e KEUAEMe MA NJEUAENAf NJUQAe LETe NGGAAMe NSENe MAe KIQe NGOMd-C NGKUE MAEMBAe NZAe YUM",
      "e WANGKUOQe NGGENe NDEUAEREEe NGKAQe GHARAEe MBEEKEETe GBAYIe NYIR MKPARAQ MEUN",
      "e NTU MBITe MBEUMe PIRIEENe NDOMBUe MBAA CABBAGE-TREEe KEUSHEUAEPe GHAPe KEUKAQ",
      "e YU MUOMAEe NZEUMe MBUEe NSEUAENe MBITe YEUQe KPARAQe KAAe SEUXe NDIDAe TAASHAEe NJUEQ",
      "e TITA YUEe SUAETe NGGUAEN NYAMe VEUXe NANSANAQe MA KEUAERIe NTAAe NGGUONe LAPe MBIRIEEN",
      "e MGBASAQe NTEUNGBAe TEUTEUXe NGGUMe FUEe NDEUTe NSAe NSHAQe BUNGe VEUAEPENe MBERAEe RU",
      "e NJAEMe LAMe TITUAEPe NSUOT NGOMe NJEEEEe KETe NGGUe MAESIe MBUAEMe LUe KUTe NJAMe NGOM",
      "e WUPe NGGUEETe NSOMe NTENe KUOP NKAARAEe NSUNe NDAMe MA NSIEEe YAAe NDAPe SHUEQe SETFON",
      "e MBIe MAEMBAe MBANYIe KEUSEUXe MBEUXe KEUMe MBAA PICKETe YUWOQe NJEUXe MIEEe MUAEe SHIQ",
      "e KEN LAWf FATIGUEe NGAQe NAQe LIQe PINe PENe TETd-D MBUOe WAPe NJIe MFONe NJIEEe LIEE",
      "e NJEUTe NSHEEe NGGAAMAEe NYAMe WUAENe NGKUNe SHEEe NGKAPe KEUAETMEUNe TEUTe SHEUAE",
      "e NJAPe SUEe KETe YAEMMAEe KUOMe SAPe MFEUTe NDEUXe MALEERIe MEUTe SEUAEQe YENe NJEUAEM",
      "e KEUOT MBUAEe NGKEURIe TUe GHAAe NGKYEEe FEUFEUAETe NDEEe MGBOFUMe LEUAEPe NDONe MONI",
      "e MGBEUNe PUUTe MGBIEEe MFOe LUMe NSIEEPe MBAAe KWAETe NYETe TEUAENe SOTe YUWOQe KEUM",
      "e RAEMe TEEEEe NGKEUAEQe MFEUAEe NSIEETe KEUPe PIPe PEUTAEe NYUEe LETe NGGAAMe MFIEE",
      "e NGGWAENe YUOMe PAPe YUOPe NDAMe NTEUMe SUAEe KUNe NGGEUXe NGKIEEe TUOTe MEUNe KUQ",
      "e NSUMe TEUNe MAENJETe NGGAPe LEUMe NGGUOMe NSHUTe NJUEQe GHEUAEe KUe REN OLDe TAEe TOQ",
      "e NYIe RIIe LEEEEe MEEEEe Me SUUe MUe SHIIe SHEUXe KYEEe NUe SHUe NTEEe PEEe NIe SHOQ",
      "e PUQe MVOPe LOQe REN MUCHe TIe NTUUe MBAA SEVENe SAQe FAAd-E NDAPe TOONe MBEUMe LAP",
      "e VOMe LOONe PAAe SOMe RAQe NSHUOPe NDUNe PUAEe TAMe NGKAe KPEUXe WUOe SEEe NGGEUAET",
      "e PAAMe TOOe KUOPe LOMe NSHIEEe NGOPe MAEMe NGKEUXe NGOQe NSHUEe RIMGBAe NJEUXe PEEM",
      "e SAAe NGGURAEe MGBAe GHEUXe NGKEUAEMe NJAEMLIe MAPe LOOTe NGGEEEEe NDIQe TAEN NTEUM",
      "e SETe PUMe NDAA SOFTNESSe NGGUAESHAE NYAMe YIEEe GHEUNe TUAEe YEUAEe POe TUMAEe KEUAE",
      "e SUAENe TEUAEQe VEUAEe WEUXe LAAMe PUe TAAQe GHAAMAEe NGEUREUTe SHEUAEQe MGBENe MBEE",
      "e NZAQe NKOMe GBETe TUMe KUETe YAPe NYI CLEAVERe YITe MFEUQe NDIAQe PIEEQe YUEQe LEUAEM",
      "e FUEe GBEUXe NGKUPe KETe MAEe NGKAAMIe GHETe FAe NTUMe PEUTe YEUMe NGGEUAEe NYI BETWEEN",
      "e NZUQe POONe MIEEe FUETe NAEe MUAEe GHEUAEe FU Ie MVIe PUAQe NGKUMe KUTe PIETe NTAP",
      "e YEUAETe NGGUPe PA PEOPLEe FU CALLe FOMe NJEEe Ae TOQe Oe Ie LAQe PA PLURALe TAAe TAQ",
      "e NDAA MY HOUSEe SHIQe YEUXe NGUAEe YUAENe YOQ SWIMMINGf COVERe YUQe YUNe KEUXe PEUX",
      "e NJEE EPOCHe PUEe WUEe FEEe VEEe LUe MIe REUXe RAEe NGUAETe NGAe SHOe SHOQe FU REMEDY",
      "e NAe PIe LOQe KOe MENe MAe MAQe TEUe KIe MONe TENe FAQe GHOMd-F KAe Ue KUe EEe REEe TAE",
      "e NYIe LAe RIIe RIEEe MEEEEe TAAe NDAAe NJAEMe Me SUUe SHIIe SIe SEUXe KYEEe KETe NUAE",
      "e NUe NJUAEe YOQe SHUe YAe NSHAe PEUXe NTEEe WUEe PEEe RUe NIe REUXe KENe NGKWAENe NGGA",
      "e SHOe PUAEe FOMe WAe LIe LOQe KOe MBENe RENe MAe MOe MBAAe TETe KPAe SAMBAe VUEQ"]),
   (0x16A40, ["aMRO LETTER TAc NGIc YOc MIMc BAc DAc Ac PHIc KHAIc HAOc DAIc CHUc KEAAEc OL",
      "c MAEMc NINc PAc OOc Oc ROc SHIc THEAc EAc WAc Ec KOc LANc LAc HAIc RIc TEK"]),
   (0x16A60, ["aMRO DIGIT ZEROc ONEc TWOc THREEc FOURc FIVEc SIXc SEVENc EIGHTc NINE"]),
   (0x16A6E, ["aMRO DANDAb DOUBLE DANDAaTANGSA LETTER OZc OCc OQc OXc AZc ACc AQc AXc VZc VC",
      "c VQc VXc EZc ECc EQc EXc IZc ICc IQc IXc UZc UCc UQc UXc AWZc AWCc AWQc AWXc UIZc UIC",
      "c UIQc UIXc FINAL NGc LONG UEXc SHORT UEZd AWXc UECc UEZc UEQc UEXc UIUZc UIUCc UIUQ",
      "c UIUXc MZc MCc MQc MXc KAc KHAc GAc NGAc SAc YAc WAc PAc NYAc PHAc BAc MAc NAc HAc LA",
      "c HTAc TAc DAc RAc NHAc SHAc CAc TSAc GHAc HTTAc THAc XAc FAc DHAc CHAc ZA"]),
   (0x16AC0, ["aTANGSA DIGIT ZEROc ONEc TWOc THREEc FOURc FIVEc SIXc SEVENc EIGHTc NINE"]),
   (0x16AD0, ["aBASSA VAH LETTER ENNId KAd SEd FAd MBEd YIEd GAHd DHIId KPAHd JOd HWAHd WAd ZO",
      "d GBUd DOd CEd UWUd TOd BAd VUd YEINd PAd WADDAd Ad Od OOd Ud EEd Ed I"]),
   (0x16AF0, ["aBASSA VAH COMBINING HIGH TONEd LOW TONEd MID TONEd LOW-MID TONEd HIGH-LOW TONE",
      "c FULL STOP"]),
   (0x16B00, ["aPAHAWH HMONG VOWEL KEEBd KEEVd KIBd KIVd KAUBd KAUVd KUBd KUVd KEBd KEVd KAIB",
      "d KAIVd KOOBd KOOVd KAWBd KAWVd KUABd KUAVd KOBd KOVd KIABd KIAVd KABd KAVd KWBd KWV",
      "d KAABd KAAVc CONSONANT VAUd NTSAUd LAUd HAUd NLAUd RAUd NKAUd QHAUd YAUd HLAUd MAU",
      "d CHAUd NCHAUd HNAUd PLHAUd NTHAUd NAUd AUd XAUd CAUc MARK CIM TUBe SOe KESe KHAVe SUAM",
      "e HOMe TAUMc SIGN VOS THOMe TSHAB CEEBd CIM CHEEMd VOS THIABe FEEMd XYEEM NTXIVe RHO",
      "e TOVe FAIBd VOS SEEVd MEEJ SUABd VOS NRUAd IB YAMd XAUSd CIM TSOV ROG"]),
   (0x16B50, ["aPAHAWH HMONG DIGIT ZEROd ONEd TWOd THREEd FOURd FIVEd SIXd SEVENd EIGHTd NINE"]),
   (0x16B5B, ["aPAHAWH HMONG NUMBER TENSd HUNDREDSd TEN THOUSANDSd MILLIONSd HUNDRED MILLIONS",
      "d TEN BILLIONSd TRILLIONS"]),
   (0x16B63, ["aPAHAWH HMONG SIGN VOS LUBd XYOOd HLId THIRD-STAGE HLId ZWJ THAJd HNUBd NQIG",
      "d XIABd NTUJd AVd TXHEEJ CEEVd MEEJ TSEEBd TAUd LOSd MUSd CIM HAIS LUS NTOG NTOG",
      "e CUAM TSHOOJe TXWVf CHWVe PUB DAWBe NRES TOS"]),
   (0x16B7D, ["aPAHAWH HMONG CLAN SIGN TSHEEJe YEEGe LISe LAUJe XYOOJe KOOe HAWJe MUASe THOJ",
      "e TSABe PHABe KHABe HAMe VAJe FAJe YAJe TSWBe KWMe VWJ"]),
   (0x16E40, ["aMEDEFAIDRIN CAPITAL LETTER Md Sd Vd Wd ATIUd Zd KPd Pd Td Gd Fd Id Kd Ad Jd E",
      "d Bd Cd Ud YUd Ld Qd HPd NYd Xd Dd OEd Nd Rd Od AId Yb SMALL LETTER Md Sd Vd Wd ATIUd Z",
      "d KPd Pd Td Gd Fd Id Kd Ad Jd Ed Bd Cd Ud YUd Ld Qd HPd NYd Xd Dd OEd Nd Rd Od AId Y",
      "b DIGIT ZEROc ONEc TWOc THREEc FOURc FIVEc SIXc SEVENc EIGHTc NINEb NUMBER TENc ELEVEN",
      "c TWELVEc THIRTEENc FOURTEENc FIFTEENc SIXTEENc SEVENTEENc EIGHTEENc NINETEEN",
      "b DIGIT ONE ALTERNATE FORMc TWO ALTERNATE FORMc THREE ALTERNATE FORMb COMMAb FULL STOP",
      "b SYMBOL AIVAb EXCLAMATION OH"]),
   (0x16F00, ["aMIAO LETTER PAc BAc YI PAc PLAc MAc MHAc ARCHAIC MAc FAc VAc VFAc TAc DA",
      "c YI TTAd TAc TTAc DDAc NAc NHAc YI NNAc ARCHAIC NAc NNAc NNHAc LAc LYAc LHAc LHYAc TLHA",
      "c DLHAc TLHYAc DLHYAc KAc GAc YI KAc QAc QGAc NGAc NGHAc ARCHAIC NGAc HAc XAc GHAc GHHA",
      "c TSSAc DZZAc NYAc NYHAc TSHAc DZHAc YI TSHAd DZHAc REFORMED TSHAc SHAc SSAc ZHAc ZSHA",
      "c TSAc DZAc YI TSAc SAc ZAc ZSAc ZZAc ZZSAc ARCHAIC ZZAc ZZYAc ZZSYAc WAc AHc HHAc BRI",
      "c SYIc DZYIc TEc TSEc RTE"]),
   (0x16F4F, ["aMIAO SIGN CONSONANT MODIFIER BARb LETTER NASALIZATIONb SIGN ASPIRATION",
      "c REFORMED VOICINGd ASPIRATIONb VOWEL SIGN Ad AAd AHHd ANd ANGd Od OOd WOd Wd Ed ENd ENG",
      "d OEYd Id IAd IANd IANGd IOd IEd IId IUd INGd Ud UAd UANd UANGd UUd UEId UNGd Yd YId AE",
      "d AEEd ERRd ROUNDED ERRd ERd ROUNDED ERd AId EId AUd OUd Nd NGd UOGd YUId OGd OERd VW",
      "d IGd EAd IONGd UI"]),
   (0x16F8F, ["aMIAO TONE RIGHTc TOP RIGHTc ABOVEc BELOWb LETTER TONE-2d-3d-4d-5d-6d-7d-8",
      "c REFORMED TONE-1e-2e-4e-5e-6e-8"]),
   (0x16FE0, ["aTANGUT ITERATION MARKaNUSHU ITERATION MARKaOLD CHINESE HOOK MARK",
      "c ITERATION MARKaKHITAN SMALL SCRIPT FILLER"]),
   (0x16FF0, ["aVIETNAMESE ALTERNATE READING MARK CAe NHAY"]),
   (0x18800, ["aTANGUT COMPONENT-001c-002c-003c-004c-005c-006c-007c-008c-009c-010c-011c-012",
      "c-013c-014c-015c-016c-017c-018c-019c-020c-021c-022c-023c-024c-025c-026c-027c-028c-029",
      "c-030c-031c-032c-033c-034c-035c-036c-037c-038c-039c-040c-041c-042c-043c-044c-045c-046",
      "c-047c-048c-049c-050c-051c-052c-053c-054c-055c-056c-057c-058c-059c-060c-061c-062c-063",
      "c-064c-065c-066c-067c-068c-069c-070c-071c-072c-073c-074c-075c-076c-077c-078c-079c-080",
      "c-081c-082c-083c-084c-085c-086c-087c-088c-089c-090c-091c-092c-093c-094c-095c-096c-097",
      "c-098c-099c-100c-101c-102c-103c-104c-105c-106c-107c-108c-109c-110c-111c-112c-113c-114",
      "c-115c-116c-117c-118c-119c-120c-121c-122c-123c-124c-125c-126c-127c-128c-129c-130c-131",
      "c-132c-133c-134c-135c-136c-137c-138c-139c-140c-141c-142c-143c-144c-145c-146c-147c-148",
      "c-149c-150c-151c-152c-153c-154c-155c-156c-157c-158c-159c-160c-161c-162c-163c-164c-165",
      "c-166c-167c-168c-169c-170c-171c-172c-173c-174c-175c-176c-177c-178c-179c-180c-181c-182",
      "c-183c-184c-185c-186c-187c-188c-189c-190c-191c-192c-193c-194c-195c-196c-197c-198c-199",
      "c-200c-201c-202c-203c-204c-205c-206c-207c-208c-209c-210c-211c-212c-213c-214c-215c-216",
      "c-217c-218c-219c-220c-221c-222c-223c-224c-225c-226c-227c-228c-229c-230c-231c-232c-233",
      "c-234c-235c-236c-237c-238c-239c-240c-241c-242c-243c-244c-245c-246c-247c-248c-249c-250",
      "c-251c-252c-253c-254c-255c-256c-257c-258c-259c-260c-261c-262c-263c-264c-265c-266c-267",
      "c-268c-269c-270c-271c-272c-273c-274c-275c-276c-277c-278c-279c-280c-281c-282c-283c-284",
      "c-285c-286c-287c-288c-289c-290c-291c-292c-293c-294c-295c-296c-297c-298c-299c-300c-301",
      "c-302c-303c-304c-305c-306c-307c-308c-309c-310c-311c-312c-313c-314c-315c-316c-317c-318",
      "c-319c-320c-321c-322c-323c-324c-325c-326c-327c-328c-329c-330c-331c-332c-333c-334c-335",
      "c-336c-337c-338c-339c-340c-341c-342c-343c-344c-345c-346c-347c-348c-349c-350c-351c-352",
      "c-353c-354c-355c-356c-357c-358c-359c-360c-361c-362c-363c-364c-365c-366c-367c-368c-369",
      "c-370c-371c-372c-373c-374c-375c-376c-377c-378c-379c-380c-381c-382c-383c-384c-385c-386",
      "c-387c-388c-389c-390c-391c-392c-393c-394c-395c-396c-397c-398c-399c-400c-401c-402c-403",
      "c-404c-405c-406c-407c-408c-409c-410c-411c-412c-413c-414c-415c-416c-417c-418c-419c-420",
      "c-421c-422c-423c-424c-425c-426c-427c-428c-429c-430c-431c-432c-433c-434c-435c-436c-437",
      "c-438c-439c-440c-441c-442c-443c-444c-445c-446c-447c-448c-449c-450c-451c-452c-453c-454",
      "c-455c-456c-457c-458c-459c-460c-461c-462c-463c-464c-465c-466c-467c-468c-469c-470c-471",
      "c-472c-473c-474c-475c-476c-477c-478c-479c-480c-481c-482c-483c-484c-485c-486c-487c-488",
      "c-489c-490c-491c-492c-493c-494c-495c-496c-497c-498c-499c-500c-501c-502c-503c-504c-505",
      "c-506c-507c-508c-509c-510c-511c-512c-513c-514c-515c-516c-517c-518c-519c-520c-521c-522",
      "c-523c-524c-525c-526c-527c-528c-529c-530c-531c-532c-533c-534c-535c-536c-537c-538c-539",
      "c-540c-541c-542c-543c-544c-545c-546c-547c-548c-549c-550c-551c-552c-553c-554c-555c-556",
      "c-557c-558c-559c-560c-561c-562c-563c-564c-565c-566c-567c-568c-569c-570c-571c-572c-573",
      "c-574c-575c-576c-577c-578c-579c-580c-581c-582c-583c-584c-585c-586c-587c-588c-589c-590",
      "c-591c-592c-593c-594c-595c-596c-597c-598c-599c-600c-601c-602c-603c-604c-605c-606c-607",
      "c-608c-609c-610c-611c-612c-613c-614c-615c-616c-617c-618c-619c-620c-621c-622c-623c-624",
      "c-625c-626c-627c-628c-629c-630c-631c-632c-633c-634c-635c-636c-637c-638c-639c-640c-641",
      "c-642c-643c-644c-645c-646c-647c-648c-649c-650c-651c-652c-653c-654c-655c-656c-657c-658",
      "c-659c-660c-661c-662c-663c-664c-665c-666c-667c-668c-669c-670c-671c-672c-673c-674c-675",
      "c-676c-677c-678c-679c-680c-681c-682c-683c-684c-685c-686c-687c-688c-689c-690c-691c-692",
      "c-693c-694c-695c-696c-697c-698c-699c-700c-701c-702c-703c-704c-705c-706c-707c-708c-709",
      "c-710c-711c-712c-713c-714c-715c-716c-717c-718c-719c-720c-721c-722c-723c-724c-725c-726",
      "c-727c-728c-729c-730c-731c-732c-733c-734c-735c-736c-737c-738c-739c-740c-741c-742c-743",
      "c-744c-745c-746c-747c-748c-749c-750c-751c-752c-753c-754c-755c-756c-757c-758c-759c-760",
      "c-761c-762c-763c-764c-765c-766c-767c-768"]),
   (0x1AFF0, ["aKATAKANA LETTER MINNAN TONE-2e-3e-4e-5"]),
   (0x1AFF5, ["aKATAKANA LETTER MINNAN TONE-7e-8d NASALIZED TONE-1f-2f-3f-4f-5"]),
   (0x1AFFD, ["aKATAKANA LETTER MINNAN NASALIZED TONE-7f-8"]),
   (0x1B000, ["aKATAKANA LETTER ARCHAIC EaHIRAGANA LETTER ARCHAIC YEaHENTAIGANA LETTER A-1d-2",
      "d-3d-WOc I-1d-2d-3d-4c U-1d-2d-3d-4d-5c E-2d-3d-4d-5d-6c O-1d-2d-3c KA-1d-2d-3d-4d-5d-6",
      "d-7d-8d-9d-10d-11d-KEc KI-1d-2d-3d-4d-5d-6d-7d-8c KU-1d-2d-3d-4d-5d-6d-7c KE-1d-2d-3d-4",
      "d-5d-6c KO-1d-2d-3d-KIc SA-1d-2d-3d-4d-5d-6d-7d-8c SI-1d-2d-3d-4d-5d-6c SU-1d-2d-3d-4d-5",
      "d-6d-7d-8c SE-1d-2d-3d-4d-5c SO-1d-2d-3d-4d-5d-6d-7c TA-1d-2d-3d-4c TI-1d-2d-3d-4d-5d-6",
      "d-7c TU-1d-2d-3d-4d-TOc TE-1d-2d-3d-4d-5d-6d-7d-8d-9c TO-1d-2d-3d-4d-5d-6d-RAc NA-1d-2",
      "d-3d-4d-5d-6d-7d-8d-9c NI-1d-2d-3d-4d-5d-6d-7d-TEc NU-1d-2d-3c NE-1d-2d-3d-4d-5d-6d-KO",
      "c NO-1d-2d-3d-4d-5c HA-1d-2d-3d-4d-5d-6d-7d-8d-9d-10d-11c HI-1d-2d-3d-4d-5d-6d-7c HU-1",
      "d-2d-3c HE-1d-2d-3d-4d-5d-6d-7c HO-1d-2d-3d-4d-5d-6d-7d-8c MA-1d-2d-3d-4d-5d-6d-7c MI-1",
      "d-2d-3d-4d-5d-6d-7c MU-1d-2d-3d-4c ME-1d-2d-MAc MO-1d-2d-3d-4d-5d-6c YA-1d-2d-3d-4d-5",
      "d-YOc YU-1d-2d-3d-4c YO-1d-2d-3d-4d-5d-6c RA-1d-2d-3d-4c RI-1d-2d-3d-4d-5d-6d-7c RU-1d-2",
      "d-3d-4d-5d-6c RE-1d-2d-3d-4c RO-1d-2d-3d-4d-5d-6c WA-1d-2d-3d-4d-5c WI-1d-2d-3d-4d-5",
      "c WE-1d-2d-3d-4c WO-1d-2d-3d-4d-5d-6d-7c N-MU-MO-1f-2aHIRAGANA LETTER ARCHAIC WU",
      "aKATAKANA LETTER ARCHAIC YId YEd WU"]),
   (0x1B150, ["aHIRAGANA LETTER SMALL WId WEd WO"]),
   (0x1B164, ["aKATAKANA LETTER SMALL WId WEd WOd N"]),
   (0x1BC00, ["aDUPLOYAN LETTER Hc Xc Pc Tc Fc Kc Lc Bc Dc Vc Gc Rc P Nc D Sc F Nc K Mc R Sc TH",
      "c SLOAN DHc DHc KKc SLOAN Jc HLc LHc RHc Mc Nc Jc Sc M Nc N Mc J Mc S Jc M WITH DOT",
      "c N WITH DOTc J WITH DOTe DOTS INSIDE AND ABOVEc S WITH DOTf BELOWc M Sc N Sc J Sc S S",
      "c M N Sc N M Sc J M Sc S J Sc J S WITH DOTd Ne Sc S Te Rd Pe Rc T Sd R Sc Wc WHc W R",
      "c S Nd Mc K R Sc G R Sc S Ke Rc Ac SLOAN OWc OAc Oc AOUc Ic Ec IEc SHORT Ic UIc EE",
      "c SLOAN EHc ROMANIAN Ic SLOAN EEc LONG Ic YEc Uc EUc XWc U Nc LONG Uc ROMANIAN Uc UH",
      "c SLOAN Uc OOHc OWc OUc WAc WOc WIc WEIc WOWc NASAL Ud Od Id Ac PERNIN ANd AMc SLOAN EN",
      "d ANd ONc VOCALIC M"]),
   (0x1BC70, ["aDUPLOYAN AFFIX LEFT HORIZONTAL SECANTc MID HORIZONTAL SECANT",
      "c RIGHT HORIZONTAL SECANTc LOW VERTICAL SECANTc MID VERTICAL SECANT",
      "c HIGH VERTICAL SECANTc ATTACHED SECANTd LEFT-TO-RIGHT SECANTd TANGENTd TAILd E HOOK",
      "d I HOOKd TANGENT HOOK"]),
   (0x1BC80, ["aDUPLOYAN AFFIX HIGH ACUTEd TIGHT ACUTEd GRAVEd LONG GRAVEd DOTd CIRCLEd LINE",
      "d WAVEd VERTICAL"]),
   (0x1BC90, ["aDUPLOYAN AFFIX LOW ACUTEd TIGHT ACUTEd GRAVEd LONG GRAVEd DOTd CIRCLEd LINE",
      "d WAVEd VERTICALd ARROW"]),
   (0x1BC9C, ["aDUPLOYAN SIGN O WITH CROSSb THICK LETTER SELECTORb DOUBLE MARK",
      "b PUNCTUATION CHINOOK FULL STOPaSHORTHAND FORMAT LETTER OVERLAPc CONTINUING OVERLAP",
      "c DOWN STEPc UP STEP"]),
   (0x1CF00, ["aZNAMENNY COMBINING MARK GORAZDO NIZKO S KRYZHEM ON LEFT",
      "d NIZKO S KRYZHEM ON LEFTd TSATA ON LEFTd GORAZDO NIZKO ON LEFTd NIZKO ON LEFT",
      "d SREDNE ON LEFTd MALO POVYSHE ON LEFTd POVYSHE ON LEFTd VYSOKO ON LEFT",
      "d MALO POVYSHE S KHOKHLOM ON LEFTd POVYSHE S KHOKHLOM ON LEFTd VYSOKO S KHOKHLOM ON LEFT",
      "d GORAZDO NIZKO S KRYZHEM ON RIGHTd NIZKO S KRYZHEM ON RIGHTd TSATA ON RIGHT",
      "d GORAZDO NIZKO ON RIGHTd NIZKO ON RIGHTd SREDNE ON RIGHTd MALO POVYSHE ON RIGHT",
      "d POVYSHE ON RIGHTd VYSOKO ON RIGHTd MALO POVYSHE S KHOKHLOM ON RIGHT",
      "d POVYSHE S KHOKHLOM ON RIGHTd VYSOKO S KHOKHLOM ON RIGHTd TSATA S KRYZHEM",
      "d MALO POVYSHE S KRYZHEMd STRANNO MALO POVYSHEd POVYSHE S KRYZHEMe STRANNO",
      "d VYSOKO S KRYZHEMd MALO POVYSHE STRANNOd GORAZDO VYSOKOd ZELOd ONd RAVNOd TIKHAYA",
      "d BORZAYAd UDARKAd PODVERTKAd LOMKAd KUPNAYAd KACHKAd ZEVOKd SKOBAd RAZSEKA",
      "d KRYZH ON LEFT"]),
   (0x1CF30, ["aZNAMENNY COMBINING TONAL RANGE MARK MRACHNOf SVETLOf TRESVETLOc MARK ZADERZHKA",
      "d DEMESTVENNY ZADERZHKAd OTSECHKAd PODCHASHIEe WITH VERTICAL STROKEd CHASHKAe POLNAYA",
      "d OBLACHKOd SOROCHYA NOZHKAd TOCHKAd DVOETOCHIEc ATTACHING VERTICAL OMET",
      "c MARK CURVED OMETd KRYZHc LOWER TONAL RANGE INDICATORb PRIZNAK MODIFIER LEVEL-2e-3",
      "d DIRECTION FLIPd KRYZHd ROG"]),
   (0x1CF50, ["aZNAMENNY NEUME KRYUKd TIKHYc PARAKLITc DVA V CHELNUc KLYUCHc ZANOZHEK",
      "c STOPITSAd S OCHKOMc PEREVODKAd NEPOSTOYANNAYAc STOPITSA WITH SOROCHYA NOZHKA",
      "c CHELYUSTKAc PALKAc ZAPYATAYAc GOLUBCHIK BORZYd TIKHYd MRACHNYd SVETLYd TRESVETLY",
      "c VRAKHIYA PROSTAYAd MRACHNAYAd SVETLAYAd TRESVETLAYAd KLYUCHEVAYA PROSTAYAe MRACHNAYA",
      "e SVETLAYAe TRESVETLAYAc DOUBLE ZAPYATAYAc REVERSED CHELYUSTKAc DERBITSAc KHAMILO",
      "c CHASHKAc PODCHASHIEc SKAMEYTSA MRACHNAYAd SVETLAYAd TRESVETLAYAd TIKHAYA",
      "c DEMESTVENNY KLYUCHc SKAMEYTSA KLYUCHEVAYA SVETLAYAd KLYUCHENEPOSTOYANNAYA",
      "d KLYUCHEVAYA TIKHAYAd DVOECHELNAYA PROSTAYAe SVETLAYAe NEPOSTOYANNAYAe KLYUCHEVAYA",
      "c SLOZHITIEd S ZAPYATOYd ZAKRYTOEd S KRYZHEMc KRYZHc ROGc FITAc KOBYLAc ZMEYTSAc STATYA",
      "d S ZAPYATOYe KRYZHEMe ZAPYATOY I KRYZHEMe KRYZHEM I ZAPYATOYd ZAKRYTAYAe S ZAPYATOY",
      "d S ROGOMe DVUMYA ZAPYATYMIe ZAPYATOY I PODCHASHIEMc POLKULIZMYc STATYA NEPOSTOYANNAYA",
      "c STRELA PROSTAYAd MRACHNOTIKHAYAd KRYZHEVAYAd POLUPOVODNAYAd POVODNAYAd NEPOSTOYANNAYA",
      "d KLYUCHEPOVODNAYAd KLYUCHENEPOSTOYANNAYAd TIKHAYA PUTNAYAd DVOECHELNAYA",
      "d DVOECHELNOKRYZHEVAYAd DVOECHELNOPOVODNAYAd DVOECHELNAYA KLYUCHEVAYA",
      "d DVOECHELNOPOVODNAYA KLYUCHEVAYAd GROMNAYA WITH SINGLE ZAPYATAYA",
      "d GROMOPOVODNAYA WITH SINGLE ZAPYATAYAd GROMNAYAd GROMOPOVODNAYAe WITH DOUBLE ZAPYATAYA",
      "d GROMOKRYZHEVAYAe POVODNAYAc MECHIKd POVODNYd KLYUCHEVOYd KLYUCHEPOVODNY",
      "d KLYUCHENEPOSTOYANNYc STRELA TRYASOGLASNAYAd TRYASOPOVODNAYAd TRYASOSTRELNAYAc OSOKA",
      "d SVETLAYAd TRESVETLAYAd KRYUKOVAYA SVETLAYAd KLYUCHEVAYA SVETLAYAe NEPOSTOYANNAYA",
      "c STRELA KRYUKOVAYAe POVODNAYAe GROMNAYA WITH SINGLE ZAPYATAYA",
      "e GROMOPOVODNAYA WITH SINGLE ZAPYATAYAe GROMNAYAe GROMOPOVODNAYAf WITH DOUBLE ZAPYATAYA",
      "e GROMOKRYZHEVAYAf POVODNAYAe TRYASKAc KUFISMAc OBLAKOc DUDAc NEMKAc PAUK"])]

end PromptTree.Text
