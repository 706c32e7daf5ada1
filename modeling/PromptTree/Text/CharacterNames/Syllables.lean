/-!
# Names of syllables and forms

The names of Unicode 14 for code points from 0x3000 to 0xFFFF:
syllables, radicals and presentation forms.

## Main Definitions

* `syllableNames` — the names of the characters of each run of code points.

## Design Notes

A name begins with a small letter that tells how many parts it has in common with the name
before it in the run, from `a` for none on; the other parts follow.  A part begins at a space
or at a hyphen.
-/

namespace PromptTree.Text

/-- The names of runs of code points, each run with its first code point. -/
def syllableNames : List (Nat × List String) :=
  [(0x3000, ["aIDEOGRAPHIC SPACEb COMMAb FULL STOPaDITTO MARK",
      "aJAPANESE INDUSTRIAL STANDARD SYMBOLaIDEOGRAPHIC ITERATION MARKb CLOSING MARK",
      "b NUMBER ZEROaLEFT ANGLE BRACKETaRIGHT ANGLE BRACKETaLEFT DOUBLE ANGLE BRACKET",
      "aRIGHT DOUBLE ANGLE BRACKETaLEFT CORNER BRACKETaRIGHT CORNER BRACKET",
      "aLEFT WHITE CORNER BRACKETaRIGHT WHITE CORNER BRACKETaLEFT BLACK LENTICULAR BRACKET",
      "aRIGHT BLACK LENTICULAR BRACKETaPOSTAL MARKaGETA MARKaLEFT TORTOISE SHELL BRACKET",
      "aRIGHT TORTOISE SHELL BRACKETaLEFT WHITE LENTICULAR BRACKET",
      "aRIGHT WHITE LENTICULAR BRACKETaLEFT WHITE TORTOISE SHELL BRACKET",
      "aRIGHT WHITE TORTOISE SHELL BRACKETaLEFT WHITE SQUARE BRACKETaRIGHT WHITE SQUARE BRACKET",
      "aWAVE DASHaREVERSED DOUBLE PRIME QUOTATION MARKaDOUBLE PRIME QUOTATION MARK",
      "aLOW DOUBLE PRIME QUOTATION MARKaPOSTAL MARK FACEaHANGZHOU NUMERAL ONEc TWOc THREEc FOUR",
      "c FIVEc SIXc SEVENc EIGHTc NINEaIDEOGRAPHIC LEVEL TONE MARKb RISING TONE MARK",
      "b DEPARTING TONE MARKb ENTERING TONE MARKaHANGUL SINGLE DOT TONE MARK",
      "b DOUBLE DOT TONE MARKaWAVY DASHaVERTICAL KANA REPEAT MARKd WITH VOICED SOUND MARK",
      "d MARK UPPER HALFd WITH VOICED SOUND MARK UPPER HALFd MARK LOWER HALF",
      "aCIRCLED POSTAL MARKaIDEOGRAPHIC TELEGRAPH LINE FEED SEPARATOR SYMBOL",
      "aHANGZHOU NUMERAL TENc TWENTYc THIRTYaVERTICAL IDEOGRAPHIC ITERATION MARKaMASU MARK",
      "aPART ALTERNATION MARKaIDEOGRAPHIC VARIATION INDICATORb HALF FILL SPACE"]),
   (0x3041, ["aHIRAGANA LETTER SMALL Ac Ac SMALL Ic Ic SMALL Uc Uc SMALL Ec Ec SMALL Oc Oc KA",
      "c GAc KIc GIc KUc GUc KEc GEc KOc GOc SAc ZAc SIc ZIc SUc ZUc SEc ZEc SOc ZOc TAc DAc TI",
      "c DIc SMALL TUc TUc DUc TEc DEc TOc DOc NAc NIc NUc NEc NOc HAc BAc PAc HIc BIc PIc HU",
      "c BUc PUc HEc BEc PEc HOc BOc POc MAc MIc MUc MEc MOc SMALL YAc YAc SMALL YUc YU",
      "c SMALL YOc YOc RAc RIc RUc REc ROc SMALL WAc WAc WIc WEc WOc Nc VUc SMALL KAd KE"]),
   (0x3099, ["aCOMBINING KATAKANA-HIRAGANA VOICED SOUND MARKd SEMI-VOICED SOUND MARK",
      "aKATAKANA-HIRAGANA VOICED SOUND MARKc SEMI-VOICED SOUND MARKaHIRAGANA ITERATION MARK",
      "b VOICED ITERATION MARKb DIGRAPH YORIaKATAKANA-HIRAGANA DOUBLE HYPHENb LETTER SMALL Ac A",
      "c SMALL Ic Ic SMALL Uc Uc SMALL Ec Ec SMALL Oc Oc KAc GAc KIc GIc KUc GUc KEc GEc KOc GO",
      "c SAc ZAc SIc ZIc SUc ZUc SEc ZEc SOc ZOc TAc DAc TIc DIc SMALL TUc TUc DUc TEc DEc TO",
      "c DOc NAc NIc NUc NEc NOc HAc BAc PAc HIc BIc PIc HUc BUc PUc HEc BEc PEc HOc BOc POc MA",
      "c MIc MUc MEc MOc SMALL YAc YAc SMALL YUc YUc SMALL YOc YOc RAc RIc RUc REc ROc SMALL WA",
      "c WAc WIc WEc WOc Nc VUc SMALL KAd KEc VAc VIc VEc VOb MIDDLE DOT",
      "b-HIRAGANA PROLONGED SOUND MARKb ITERATION MARKb VOICED ITERATION MARKb DIGRAPH KOTO"]),
   (0x3105, ["aBOPOMOFO LETTER Bc Pc Mc Fc Dc Tc Nc Lc Gc Kc Hc Jc Qc Xc ZHc CHc SHc Rc Zc Cc S",
      "c Ac Oc Ec EHc AIc EIc AUc OUc ANc ENc ANGc ENGc ERc Ic Uc IUc Vc NGc GNc IH",
      "c O WITH DOT ABOVEc NN"]),
   (0x3131, ["aHANGUL LETTER KIYEOKc SSANGKIYEOKc KIYEOK-SIOSc NIEUNd-CIEUCd-HIEUHc TIKEUT",
      "c SSANGTIKEUTc RIEULd-KIYEOKd-MIEUMd-PIEUPd-SIOSd-THIEUTHd-PHIEUPHd-HIEUHc MIEUMc PIEUP",
      "c SSANGPIEUPc PIEUP-SIOSc SIOSc SSANGSIOSc IEUNGc CIEUCc SSANGCIEUCc CHIEUCHc KHIEUKH",
      "c THIEUTHc PHIEUPHc HIEUHc Ac AEc YAc YAEc EOc Ec YEOc YEc Oc WAc WAEc OEc YOc Uc WEO",
      "c WEc WIc YUc EUc YIc Ib FILLERb LETTER SSANGNIEUNc NIEUN-TIKEUTd-SIOSd-PANSIOS",
      "c RIEUL-KIYEOK-SIOSd-TIKEUTd-PIEUP-SIOSd-PANSIOSd-YEORINHIEUHc MIEUM-PIEUPd-SIOS",
      "d-PANSIOSc KAPYEOUNMIEUMc PIEUP-KIYEOKd-TIKEUTd-SIOS-KIYEOKe-TIKEUTd-CIEUCd-THIEUTH",
      "c KAPYEOUNPIEUPc KAPYEOUNSSANGPIEUPc SIOS-KIYEOKd-NIEUNd-TIKEUTd-PIEUPd-CIEUCc PANSIOS",
      "c SSANGIEUNGc YESIEUNGd-SIOSd-PANSIOSc KAPYEOUNPHIEUPHc SSANGHIEUHc YEORINHIEUHc YO-YA",
      "d-YAEd-Ic YU-YEOd-YEd-Ic ARAEAc ARAEAE"]),
   (0x3190, ["aIDEOGRAPHIC ANNOTATION LINKING MARKc REVERSE MARKc ONE MARKc TWO MARK",
      "c THREE MARKc FOUR MARKc TOP MARKc MIDDLE MARKc BOTTOM MARKc FIRST MARKc SECOND MARK",
      "c THIRD MARKc FOURTH MARKc HEAVEN MARKc EARTH MARKc MAN MARKaBOPOMOFO LETTER BUc ZIc JI",
      "c GUc EEc ENNc OOc ONNc IRc ANNc INNc UNNc IMc NGGc AINNc AUNNc AMc OMc ONGc INNN",
      "b FINAL LETTER Pd Td Kd Hb LETTER GHc LHc ZYb FINAL LETTER Gb LETTER GWc KWc OEc AH",
      "aCJK STROKE Tc WGc XGc BXGc SWc HZZc HZGc HPc HZWGc SZWGc HZTc HZZPc HPWGc HZWc HZZZc N",
      "c Hc Sc Pc SPc Dc HZc HGc SZc SWZc STc SGc PDc PZc TNc SZZc SWGc HXWGc HZZZGc PGc Q"]),
   (0x31F0, ["aKATAKANA LETTER SMALL KUd SId SUd TOd NUd HAd HId HUd HEd HOd MUd RAd RId RUd RE",
      "d ROaPARENTHESIZED HANGUL KIYEOKc NIEUNc TIKEUTc RIEULc MIEUMc PIEUPc SIOSc IEUNGc CIEUC",
      "c CHIEUCHc KHIEUKHc THIEUTHc PHIEUPHc HIEUHc KIYEOK Ac NIEUN Ac TIKEUT Ac RIEUL A",
      "c MIEUM Ac PIEUP Ac SIOS Ac IEUNG Ac CIEUC Ac CHIEUCH Ac KHIEUKH Ac THIEUTH Ac PHIEUPH A",
      "c HIEUH Ac CIEUC Ub KOREAN CHARACTER OJEONd O HU"]),
   (0x3220, ["aPARENTHESIZED IDEOGRAPH ONEc TWOc THREEc FOURc FIVEc SIXc SEVENc EIGHTc NINE",
      "c TENc MOONc FIREc WATERc WOODc METALc EARTHc SUNc STOCKc HAVEc SOCIETYc NAMEc SPECIAL",
      "c FINANCIALc CONGRATULATIONc LABORc REPRESENTc CALLc STUDYc SUPERVISEc ENTERPRISE",
      "c RESOURCEc ALLIANCEc FESTIVALc RESTc SELFc REACHaCIRCLED IDEOGRAPH QUESTION",
      "c KINDERGARTENc SCHOOLc KOTOb NUMBER TEN ON BLACK SQUAREc TWENTY ON BLACK SQUARE",
      "c THIRTY ON BLACK SQUAREc FORTY ON BLACK SQUAREc FIFTY ON BLACK SQUARE",
      "c SIXTY ON BLACK SQUAREc SEVENTY ON BLACK SQUAREc EIGHTY ON BLACK SQUARE",
      "aPARTNERSHIP SIGNaCIRCLED NUMBER TWENTY ONEd TWOd THREEd FOURd FIVEd SIXd SEVENd EIGHT",
      "d NINEc THIRTYd ONEd TWOd THREEd FOURd FIVEb HANGUL KIYEOKc NIEUNc TIKEUTc RIEULc MIEUM",
      "c PIEUPc SIOSc IEUNGc CIEUCc CHIEUCHc KHIEUKHc THIEUTHc PHIEUPHc HIEUHc KIYEOK A",
      "c NIEUN Ac TIKEUT Ac RIEUL Ac MIEUM Ac PIEUP Ac SIOS Ac IEUNG Ac CIEUC Ac CHIEUCH A",
      "c KHIEUKH Ac THIEUTH Ac PHIEUPH Ac HIEUH Ab KOREAN CHARACTER CHAMKOd JUEUI",
      "b HANGUL IEUNG UaKOREAN STANDARD SYMBOLaCIRCLED IDEOGRAPH ONEc TWOc THREEc FOURc FIVE",
      "c SIXc SEVENc EIGHTc NINEc TENc MOONc FIREc WATERc WOODc METALc EARTHc SUNc STOCKc HAVE",
      "c SOCIETYc NAMEc SPECIALc FINANCIALc CONGRATULATIONc LABORc SECRETc MALEc FEMALE",
      "c SUITABLEc EXCELLENTc PRINTc ATTENTIONc ITEMc RESTc COPYc CORRECTc HIGHc CENTREc LOW",
      "c LEFTc RIGHTc MEDICINEc RELIGIONc STUDYc SUPERVISEc ENTERPRISEc RESOURCEc ALLIANCE",
      "c NIGHTb NUMBER THIRTY SIXd SEVENd EIGHTd NINEc FORTYd ONEd TWOd THREEd FOURd FIVEd SIX",
      "d SEVENd EIGHTd NINEc FIFTYaIDEOGRAPHIC TELEGRAPH SYMBOL FOR JANUARYe FEBRUARYe MARCH",
      "e APRILe MAYe JUNEe JULYe AUGUSTe SEPTEMBERe OCTOBERe NOVEMBERe DECEMBERaSQUARE HGb ERG",
      "b EVaLIMITED LIABILITY SIGNaCIRCLED KATAKANA Ac Ic Uc Ec Oc KAc KIc KUc KEc KOc SAc SI",
      "c SUc SEc SOc TAc TIc TUc TEc TOc NAc NIc NUc NEc NOc HAc HIc HUc HEc HOc MAc MIc MUc ME",
      "c MOc YAc YUc YOc RAc RIc RUc REc ROc WAc WIc WEc WOaSQUARE ERA NAME REIWAb APAATO",
      "b ARUHUAb ANPEAb AARUb ININGUb INTIb UONb ESUKUUDOb EEKAAb ONSUb OOMUb KAIRIb KARATTO",
      "b KARORIIb GARONb GANMAb GIGAb GINIIb KYURIIb GIRUDAAb KIROb KIROGURAMUb KIROMEETORU",
      "b KIROWATTOb GURAMUb GURAMUTONb KURUZEIROb KUROONEb KEESUb KORUNAb KOOPOb SAIKURU",
      "b SANTIIMUb SIRINGUb SENTIb SENTOb DAASUb DESIb DORUb TONb NANOb NOTTOb HAITUb PAASENTO",
      "b PAATUb BAARERUb PIASUTORUb PIKURUb PIKOb BIRUb HUARADDOb HUIITOb BUSSYERUb HURAN",
      "b HEKUTAARUb PESOb PENIHIb HERUTUb PENSUb PEEZIb BEETAb POINTOb BORUTOb HONb PONDO",
      "b HOORUb HOONb MAIKUROb MAIRUb MAHHAb MARUKUb MANSYONb MIKURONb MIRIb MIRIBAARUb MEGA",
      "b MEGATONb MEETORUb YAADOb YAARUb YUANb RITTORUb RIRAb RUPIIb RUUBURUb REMUb RENTOGEN",
      "b WATTOaIDEOGRAPHIC TELEGRAPH SYMBOL FOR HOUR ZEROf ONEf TWOf THREEf FOURf FIVEf SIX",
      "f SEVENf EIGHTf NINEf TENf ELEVENf TWELVEf THIRTEENf FOURTEENf FIFTEENf SIXTEEN",
      "f SEVENTEENf EIGHTEENf NINETEENf TWENTYg-ONEg-TWOg-THREEg-FOURaSQUARE HPAb DAb AUb BAR",
      "b OVb PCb DMc SQUAREDc CUBEDb IUb ERA NAME HEISEId SYOUWAd TAISYOUd MEIZIb CORPORATION",
      "b PA AMPSb NAb MU Ab MAb KAb KBb MBb GBb CALb KCALb PFb NFb MU Fc Gb MGb KGb HZb KHZ",
      "b MHZb GHZb THZb MU Lb MLb DLb KLb FMb NMb MU Mb MMb CMb KMb MM SQUAREDb CM SQUARED",
      "b M SQUAREDb KM SQUAREDb MM CUBEDb CM CUBEDb M CUBEDb KM CUBEDb M OVER Se SQUAREDb PA",
      "b KPAb MPAb GPAb RADc OVER Se SQUAREDb PSb NSb MU Sb MSb PVb NVb MU Vb MVb KVb MV MEGA",
      "b PWb NWb MU Wb MWb KWb MW MEGAb K OHMb M OHMb AMb BQb CCb CDb C OVER KGb COb DBb GYb HA",
      "b HPb INb KKb KM CAPITALb KTb LMb LNb LOGb LXb MB SMALLb MILb MOLb PHb PMb PPMb PRb SR",
      "b SVb WBb V OVER Mb A OVER MaIDEOGRAPHIC TELEGRAPH SYMBOL FOR DAY ONEf TWOf THREEf FOUR",
      "f FIVEf SIXf SEVENf EIGHTf NINEf TENf ELEVENf TWELVEf THIRTEENf FOURTEENf FIFTEEN",
      "f SIXTEENf SEVENTEENf EIGHTEENf NINETEENf TWENTYg-ONEg-TWOg-THREEg-FOURg-FIVEg-SIX",
      "g-SEVENg-EIGHTg-NINEf THIRTYg-ONEaSQUARE GAL"]),
   (0x4DC0, ["aHEXAGRAM FOR THE CREATIVE HEAVENd RECEPTIVE EARTHc DIFFICULTY AT THE BEGINNING",
      "c YOUTHFUL FOLLYc WAITINGc CONFLICTc THE ARMYc HOLDING TOGETHERc SMALL TAMINGc TREADING",
      "c PEACEc STANDSTILLc FELLOWSHIPc GREAT POSSESSIONc MODESTYc ENTHUSIASMc FOLLOWING",
      "c WORK ON THE DECAYEDc APPROACHc CONTEMPLATIONc BITING THROUGHc GRACEc SPLITTING APART",
      "c RETURNc INNOCENCEc GREAT TAMINGc MOUTH CORNERSc GREAT PREPONDERANCEc THE ABYSMAL WATER",
      "d CLINGING FIREc INFLUENCEc DURATIONc RETREATc GREAT POWERc PROGRESS",
      "c DARKENING OF THE LIGHTc THE FAMILYc OPPOSITIONc OBSTRUCTIONc DELIVERANCEc DECREASE",
      "c INCREASEc BREAKTHROUGHc COMING TO MEETc GATHERING TOGETHERc PUSHING UPWARDc OPPRESSION",
      "c THE WELLc REVOLUTIONc THE CAULDRONd AROUSING THUNDERd KEEPING STILL MOUNTAIN",
      "c DEVELOPMENTc THE MARRYING MAIDENc ABUNDANCEc THE WANDERERd GENTLE WINDd JOYOUS LAKE",
      "c DISPERSIONc LIMITATIONc INNER TRUTHc SMALL PREPONDERANCEc AFTER COMPLETION",
      "c BEFORE COMPLETION"]),
   (0xA000, ["aYI SYLLABLE ITc IXc Ic IPc IETc IEXc IEc IEPc ATc AXc Ac APc UOXc UOc UOPc OT",
      "c OXc Oc OPc EXc Ec WUc BITc BIXc BIc BIPc BIETc BIEXc BIEc BIEPc BATc BAXc BAc BAP",
      "c BUOXc BUOc BUOPc BOTc BOXc BOc BOPc BEXc BEc BEPc BUTc BUXc BUc BUPc BURXc BURc BYT",
      "c BYXc BYc BYPc BYRXc BYRc PITc PIXc PIc PIPc PIEXc PIEc PIEPc PATc PAXc PAc PAPc PUOX",
      "c PUOc PUOPc POTc POXc POc POPc PUTc PUXc PUc PUPc PURXc PURc PYTc PYXc PYc PYPc PYRX",
      "c PYRc BBITc BBIXc BBIc BBIPc BBIETc BBIEXc BBIEc BBIEPc BBATc BBAXc BBAc BBAPc BBUOX",
      "c BBUOc BBUOPc BBOTc BBOXc BBOc BBOPc BBEXc BBEc BBEPc BBUTc BBUXc BBUc BBUPc BBURX",
      "c BBURc BBYTc BBYXc BBYc BBYPc NBITc NBIXc NBIc NBIPc NBIEXc NBIEc NBIEPc NBATc NBAX",
      "c NBAc NBAPc NBOTc NBOXc NBOc NBOPc NBUTc NBUXc NBUc NBUPc NBURXc NBURc NBYTc NBYXc NBY",
      "c NBYPc NBYRXc NBYRc HMITc HMIXc HMIc HMIPc HMIEXc HMIEc HMIEPc HMATc HMAXc HMAc HMAP",
      "c HMUOXc HMUOc HMUOPc HMOTc HMOXc HMOc HMOPc HMUTc HMUXc HMUc HMUPc HMURXc HMURc HMYX",
      "c HMYc HMYPc HMYRXc HMYRc MITc MIXc MIc MIPc MIEXc MIEc MIEPc MATc MAXc MAc MAPc MUOT",
      "c MUOXc MUOc MUOPc MOTc MOXc MOc MOPc MEXc MEc MUTc MUXc MUc MUPc MURXc MURc MYTc MYX",
      "c MYc MYPc FITc FIXc FIc FIPc FATc FAXc FAc FAPc FOXc FOc FOPc FUTc FUXc FUc FUPc FURX",
      "c FURc FYTc FYXc FYc FYPc VITc VIXc VIc VIPc VIETc VIEXc VIEc VIEPc VATc VAXc VAc VAP",
      "c VOTc VOXc VOc VOPc VEXc VEPc VUTc VUXc VUc VUPc VURXc VURc VYTc VYXc VYc VYPc VYRX",
      "c VYRc DITc DIXc DIc DIPc DIEXc DIEc DIEPc DATc DAXc DAc DAPc DUOXc DUOc DOTc DOXc DO",
      "c DOPc DEXc DEc DEPc DUTc DUXc DUc DUPc DURXc DURc TITc TIXc TIc TIPc TIEXc TIEc TIEP",
      "c TATc TAXc TAc TAPc TUOTc TUOXc TUOc TUOPc TOTc TOXc TOc TOPc TEXc TEc TEPc TUTc TUX",
      "c TUc TUPc TURXc TURc DDITc DDIXc DDIc DDIPc DDIEXc DDIEc DDIEPc DDATc DDAXc DDAc DDAP",
      "c DDUOXc DDUOc DDUOPc DDOTc DDOXc DDOc DDOPc DDEXc DDEc DDEPc DDUTc DDUXc DDUc DDUP",
      "c DDURXc DDURc NDITc NDIXc NDIc NDIPc NDIEXc NDIEc NDATc NDAXc NDAc NDAPc NDOTc NDOX",
      "c NDOc NDOPc NDEXc NDEc NDEPc NDUTc NDUXc NDUc NDUPc NDURXc NDURc HNITc HNIXc HNIc HNIP",
      "c HNIETc HNIEXc HNIEc HNIEPc HNATc HNAXc HNAc HNAPc HNUOXc HNUOc HNOTc HNOXc HNOPc HNEX",
      "c HNEc HNEPc HNUTc NITc NIXc NIc NIPc NIEXc NIEc NIEPc NAXc NAc NAPc NUOXc NUOc NUOP",
      "c NOTc NOXc NOc NOPc NEXc NEc NEPc NUTc NUXc NUc NUPc NURXc NURc HLITc HLIXc HLIc HLIP",
      "c HLIEXc HLIEc HLIEPc HLATc HLAXc HLAc HLAPc HLUOXc HLUOc HLUOPc HLOXc HLOc HLOPc HLEX",
      "c HLEc HLEPc HLUTc HLUXc HLUc HLUPc HLURXc HLURc HLYTc HLYXc HLYc HLYPc HLYRXc HLYRc LIT",
      "c LIXc LIc LIPc LIETc LIEXc LIEc LIEPc LATc LAXc LAc LAPc LUOTc LUOXc LUOc LUOPc LOT",
      "c LOXc LOc LOPc LEXc LEc LEPc LUTc LUXc LUc LUPc LURXc LURc LYTc LYXc LYc LYPc LYRXc LYR",
      "c GITc GIXc GIc GIPc GIETc GIEXc GIEc GIEPc GATc GAXc GAc GAPc GUOTc GUOXc GUOc GUOP",
      "c GOTc GOXc GOc GOPc GETc GEXc GEc GEPc GUTc GUXc GUc GUPc GURXc GURc KITc KIXc KIc KIP",
      "c KIEXc KIEc KIEPc KATc KAXc KAc KAPc KUOXc KUOc KUOPc KOTc KOXc KOc KOPc KETc KEXc KE",
      "c KEPc KUTc KUXc KUc KUPc KURXc KURc GGITc GGIXc GGIc GGIEXc GGIEc GGIEPc GGATc GGAX",
      "c GGAc GGAPc GGUOTc GGUOXc GGUOc GGUOPc GGOTc GGOXc GGOc GGOPc GGETc GGEXc GGEc GGEP",
      "c GGUTc GGUXc GGUc GGUPc GGURXc GGURc MGIEXc MGIEc MGATc MGAXc MGAc MGAPc MGUOXc MGUO",
      "c MGUOPc MGOTc MGOXc MGOc MGOPc MGEXc MGEc MGEPc MGUTc MGUXc MGUc MGUPc MGURXc MGUR",
      "c HXITc HXIXc HXIc HXIPc HXIETc HXIEXc HXIEc HXIEPc HXATc HXAXc HXAc HXAPc HXUOTc HXUOX",
      "c HXUOc HXUOPc HXOTc HXOXc HXOc HXOPc HXEXc HXEc HXEPc NGIEXc NGIEc NGIEPc NGATc NGAX",
      "c NGAc NGAPc NGUOTc NGUOXc NGUOc NGOTc NGOXc NGOc NGOPc NGEXc NGEc NGEPc HITc HIEXc HIE",
      "c HATc HAXc HAc HAPc HUOTc HUOXc HUOc HUOPc HOTc HOXc HOc HOPc HEXc HEc HEPc WATc WAX",
      "c WAc WAPc WUOXc WUOc WUOPc WOXc WOc WOPc WEXc WEc WEPc ZITc ZIXc ZIc ZIPc ZIEXc ZIE",
      "c ZIEPc ZATc ZAXc ZAc ZAPc ZUOXc ZUOc ZUOPc ZOTc ZOXc ZOc ZOPc ZEXc ZEc ZEPc ZUTc ZUX",
      "c ZUc ZUPc ZURXc ZURc ZYTc ZYXc ZYc ZYPc ZYRXc ZYRc CITc CIXc CIc CIPc CIETc CIEXc CIE",
      "c CIEPc CATc CAXc CAc CAPc CUOXc CUOc CUOPc COTc COXc COc COPc CEXc CEc CEPc CUTc CUX",
      "c CUc CUPc CURXc CURc CYTc CYXc CYc CYPc CYRXc CYRc ZZITc ZZIXc ZZIc ZZIPc ZZIETc ZZIEX",
      "c ZZIEc ZZIEPc ZZATc ZZAXc ZZAc ZZAPc ZZOXc ZZOc ZZOPc ZZEXc ZZEc ZZEPc ZZUXc ZZUc ZZUP",
      "c ZZURXc ZZURc ZZYTc ZZYXc ZZYc ZZYPc ZZYRXc ZZYRc NZITc NZIXc NZIc NZIPc NZIEXc NZIE",
      "c NZIEPc NZATc NZAXc NZAc NZAPc NZUOXc NZUOc NZOXc NZOPc NZEXc NZEc NZUXc NZUc NZUP",
      "c NZURXc NZURc NZYTc NZYXc NZYc NZYPc NZYRXc NZYRc SITc SIXc SIc SIPc SIEXc SIEc SIEP",
      "c SATc SAXc SAc SAPc SUOXc SUOc SUOPc SOTc SOXc SOc SOPc SEXc SEc SEPc SUTc SUXc SUc SUP",
      "c SURXc SURc SYTc SYXc SYc SYPc SYRXc SYRc SSITc SSIXc SSIc SSIPc SSIEXc SSIEc SSIEP",
      "c SSATc SSAXc SSAc SSAPc SSOTc SSOXc SSOc SSOPc SSEXc SSEc SSEPc SSUTc SSUXc SSUc SSUP",
      "c SSYTc SSYXc SSYc SSYPc SSYRXc SSYRc ZHATc ZHAXc ZHAc ZHAPc ZHUOXc ZHUOc ZHUOPc ZHOT",
      "c ZHOXc ZHOc ZHOPc ZHETc ZHEXc ZHEc ZHEPc ZHUTc ZHUXc ZHUc ZHUPc ZHURXc ZHURc ZHYTc ZHYX",
      "c ZHYc ZHYPc ZHYRXc ZHYRc CHATc CHAXc CHAc CHAPc CHUOTc CHUOXc CHUOc CHUOPc CHOTc CHOX",
      "c CHOc CHOPc CHETc CHEXc CHEc CHEPc CHUXc CHUc CHUPc CHURXc CHURc CHYTc CHYXc CHYc CHYP",
      "c CHYRXc CHYRc RRAXc RRAc RRUOXc RRUOc RROTc RROXc RROc RROPc RRETc RREXc RREc RREP",
      "c RRUTc RRUXc RRUc RRUPc RRURXc RRURc RRYTc RRYXc RRYc RRYPc RRYRXc RRYRc NRATc NRAX",
      "c NRAc NRAPc NROXc NROc NROPc NRETc NREXc NREc NREPc NRUTc NRUXc NRUc NRUPc NRURXc NRUR",
      "c NRYTc NRYXc NRYc NRYPc NRYRXc NRYRc SHATc SHAXc SHAc SHAPc SHUOXc SHUOc SHUOPc SHOT",
      "c SHOXc SHOc SHOPc SHETc SHEXc SHEc SHEPc SHUTc SHUXc SHUc SHUPc SHURXc SHURc SHYTc SHYX",
      "c SHYc SHYPc SHYRXc SHYRc RATc RAXc RAc RAPc RUOXc RUOc RUOPc ROTc ROXc ROc ROPc REXc RE",
      "c REPc RUTc RUXc RUc RUPc RURXc RURc RYTc RYXc RYc RYPc RYRXc RYRc JITc JIXc JIc JIP",
      "c JIETc JIEXc JIEc JIEPc JUOTc JUOXc JUOc JUOPc JOTc JOXc JOc JOPc JUTc JUXc JUc JUP",
      "c JURXc JURc JYTc JYXc JYc JYPc JYRXc JYRc QITc QIXc QIc QIPc QIETc QIEXc QIEc QIEP",
      "c QUOTc QUOXc QUOc QUOPc QOTc QOXc QOc QOPc QUTc QUXc QUc QUPc QURXc QURc QYTc QYXc QY",
      "c QYPc QYRXc QYRc JJITc JJIXc JJIc JJIPc JJIETc JJIEXc JJIEc JJIEPc JJUOXc JJUOc JJUOP",
      "c JJOTc JJOXc JJOc JJOPc JJUTc JJUXc JJUc JJUPc JJURXc JJURc JJYTc JJYXc JJYc JJYPc NJIT",
      "c NJIXc NJIc NJIPc NJIETc NJIEXc NJIEc NJIEPc NJUOXc NJUOc NJOTc NJOXc NJOc NJOPc NJUX",
      "c NJUc NJUPc NJURXc NJURc NJYTc NJYXc NJYc NJYPc NJYRXc NJYRc NYITc NYIXc NYIc NYIP",
      "c NYIETc NYIEXc NYIEc NYIEPc NYUOXc NYUOc NYUOPc NYOTc NYOXc NYOc NYOPc NYUTc NYUXc NYU",
      "c NYUPc XITc XIXc XIc XIPc XIETc XIEXc XIEc XIEPc XUOXc XUOc XOTc XOXc XOc XOPc XYTc XYX",
      "c XYc XYPc XYRXc XYRc YITc YIXc YIc YIPc YIETc YIEXc YIEc YIEPc YUOTc YUOXc YUOc YUOP",
      "c YOTc YOXc YOc YOPc YUTc YUXc YUc YUPc YURXc YURc YYTc YYXc YYc YYPc YYRXc YYR"]),
   (0xA490, ["aYI RADICAL QOTc LIc KITc NYIPc CYPc SSIc GGOPc GEPc MIc HXITc LYRc BBUTc MOPc YO",
      "c PUTc HXUOc TATc GAc ZUPc CYTc DDURc BURc GGUOc NYOPc TUc OPc JJUTc ZOTc PYTc HMOc YIT",
      "c VURc SHYc VEPc ZAc JOc NZUPc JJYc GOTc JJIEc WOc DUc SHURc LIEc CYc CUOPc CIPc HXOP",
      "c SHATc ZURc SHOPc CHEc ZZIETc NBIEc KE"]),
   (0xA4D0, ["aLISU LETTER BAc PAc PHAc DAc TAc THAc GAc KAc KHAc JAc CAc CHAc DZAc TSAc TSHA",
      "c MAc NAc LAc SAc ZHAc ZAc NGAc HAc XAc HHAc FAc WAc SHAc YAc GHAc Ac AEc Ec EUc Ic Oc U",
      "c UEc UHc OEc TONE MYA TId NA POd MYA CYAe BOe NAe JEUb PUNCTUATION COMMAc FULL STOP",
      "aVAI SYLLABLE EEc EENc HEEc WEEc WEENc PEEc BHEEc BEEc MBEEc KPEEc MGBEEc GBEEc FEEc VEE",
      "c TEEc THEEc DHEEc DHHEEc LEEc REEc DEEc NDEEc SEEc SHEEc ZEEc ZHEEc CEEc JEEc NJEEc YEE",
      "c KEEc NGGEEc GEEc MEEc NEEc NYEEc Ic INc HIc HINc WIc WINc PIc BHIc BIc MBIc KPIc MGBI",
      "c GBIc FIc VIc TIc THIc DHIc DHHIc LIc RIc DIc NDIc SIc SHIc ZIc ZHIc CIc JIc NJIc YI",
      "c KIc NGGIc GIc MIc NIc NYIc Ac ANc NGANc HAc HANc WAc WANc PAc BHAc BAc MBAc KPAc KPAN",
      "c MGBAc GBAc FAc VAc TAc THAc DHAc DHHAc LAc RAc DAc NDAc SAc SHAc ZAc ZHAc CAc JAc NJA",
      "c YAc KAc KANc NGGAc GAc MAc NAc NYAc OOc OONc HOOc WOOc WOONc POOc BHOOc BOOc MBOO",
      "c KPOOc MGBOOc GBOOc FOOc VOOc TOOc THOOc DHOOc DHHOOc LOOc ROOc DOOc NDOOc SOOc SHOO",
      "c ZOOc ZHOOc COOc JOOc NJOOc YOOc KOOc NGGOOc GOOc MOOc NOOc NYOOc Uc UNc HUc HUNc WU",
      "c WUNc PUc BHUc BUc MBUc KPUc MGBUc GBUc FUc VUc TUc THUc DHUc DHHUc LUc RUc DUc NDUc SU",
      "c SHUc ZUc ZHUc CUc JUc NJUc YUc KUc NGGUc GUc MUc NUc NYUc Oc ONc NGONc HOc HONc WO",
      "c WONc POc BHOc BOc MBOc KPOc MGBOc GBOc GBONc FOc VOc TOc THOc DHOc DHHOc LOc ROc DO",
      "c NDOc SOc SHOc ZOc ZHOc COc JOc NJOc YOc KOc NGGOc GOc MOc NOc NYOc Ec ENc NGENc HE",
      "c HENc WEc WENc PEc BHEc BEc MBEc KPEc KPENc MGBEc GBEc GBENc FEc VEc TEc THEc DHEc DHHE",
      "c LEc REc DEc NDEc SEc SHEc ZEc ZHEc CEc JEc NJEc YEc KEc NGGEc NGGENc GEc GENc MEc NE",
      "c NYEc NGc LENGTHENERb COMMAb FULL STOPb QUESTION MARKb SYLLABLE NDOLE FAd KAd SOO",
      "b SYMBOL FEENGc KEENGc TINGc NIIc BANGc FAAc TAAc DANGc DOONGc KUNGc TONGc DO-Oc JONG",
      "b DIGIT ZEROc ONEc TWOc THREEc FOURc FIVEc SIXc SEVENc EIGHTc NINEb SYLLABLE NDOLE MA",
      "d DO"]),
   (0xA640, ["aCYRILLIC CAPITAL LETTER ZEMLYAb SMALL LETTER ZEMLYAb CAPITAL LETTER DZELO",
      "b SMALL LETTER DZELOb CAPITAL LETTER REVERSED DZEb SMALL LETTER REVERSED DZE",
      "b CAPITAL LETTER IOTAb SMALL LETTER IOTAb CAPITAL LETTER DJERVb SMALL LETTER DJERV",
      "b CAPITAL LETTER MONOGRAPH UKb SMALL LETTER MONOGRAPH UKb CAPITAL LETTER BROAD OMEGA",
      "b SMALL LETTER BROAD OMEGAb CAPITAL LETTER NEUTRAL YERb SMALL LETTER NEUTRAL YER",
      "b CAPITAL LETTER YERU WITH BACK YERb SMALL LETTER YERU WITH BACK YER",
      "b CAPITAL LETTER IOTIFIED YATb SMALL LETTER IOTIFIED YATb CAPITAL LETTER REVERSED YU",
      "b SMALL LETTER REVERSED YUb CAPITAL LETTER IOTIFIED Ab SMALL LETTER IOTIFIED A",
      "b CAPITAL LETTER CLOSED LITTLE YUSb SMALL LETTER CLOSED LITTLE YUS",
      "b CAPITAL LETTER BLENDED YUSb SMALL LETTER BLENDED YUS",
      "b CAPITAL LETTER IOTIFIED CLOSED LITTLE YUSb SMALL LETTER IOTIFIED CLOSED LITTLE YUS",
      "b CAPITAL LETTER YNb SMALL LETTER YNb CAPITAL LETTER REVERSED TSE",
      "b SMALL LETTER REVERSED TSEb CAPITAL LETTER SOFT DEb SMALL LETTER SOFT DE",
      "b CAPITAL LETTER SOFT ELb SMALL LETTER SOFT ELb CAPITAL LETTER SOFT EM",
      "b SMALL LETTER SOFT EMb CAPITAL LETTER MONOCULAR Ob SMALL LETTER MONOCULAR O",
      "b CAPITAL LETTER BINOCULAR Ob SMALL LETTER BINOCULAR O",
      "b CAPITAL LETTER DOUBLE MONOCULAR Ob SMALL LETTER DOUBLE MONOCULAR O",
      "b LETTER MULTIOCULAR OaCOMBINING CYRILLIC VZMETc TEN MILLIONS SIGN",
      "c HUNDRED MILLIONS SIGNc THOUSAND MILLIONS SIGNaSLAVONIC ASTERISK",
      "aCOMBINING CYRILLIC LETTER UKRAINIAN IEd Id YId Ud HARD SIGNd YERUd SOFT SIGNd OMEGA",
      "c KAVYKAc PAYEROKaCYRILLIC KAVYKAb PAYEROKb CAPITAL LETTER DWEb SMALL LETTER DWE",
      "b CAPITAL LETTER DZWEb SMALL LETTER DZWEb CAPITAL LETTER ZHWEb SMALL LETTER ZHWE",
      "b CAPITAL LETTER CCHEb SMALL LETTER CCHEb CAPITAL LETTER DZZEb SMALL LETTER DZZE",
      "b CAPITAL LETTER TE WITH MIDDLE HOOKb SMALL LETTER TE WITH MIDDLE HOOK",
      "b CAPITAL LETTER TWEb SMALL LETTER TWEb CAPITAL LETTER TSWEb SMALL LETTER TSWE",
      "b CAPITAL LETTER TSSEb SMALL LETTER TSSEb CAPITAL LETTER TCHEb SMALL LETTER TCHE",
      "b CAPITAL LETTER HWEb SMALL LETTER HWEb CAPITAL LETTER SHWEb SMALL LETTER SHWE",
      "b CAPITAL LETTER DOUBLE Ob SMALL LETTER DOUBLE Ob CAPITAL LETTER CROSSED O",
      "b SMALL LETTER CROSSED OaMODIFIER LETTER CYRILLIC HARD SIGNd SOFT SIGN",
      "aCOMBINING CYRILLIC LETTER EFd IOTIFIED EaBAMUM LETTER Ac KAc Uc KUc EEc REEc TAEc O",
      "c NYIc Ic LAc PAc RIIc RIEEc LEEEEc MEEEEc TAAc NDAAc NJAEMc Mc SUUc MUc SHIIc SIc SHEUX",
      "c SEUXc KYEEc KETc NUAEc NUc NJUAEc YOQc SHUc YUQc YAc NSHAc KEUXc PEUXc NJEEc NTEEc PUE",
      "c WUEc PEEc FEEc RUc LUc MIc NIc REUXc RAEc KENc NGKWAENc NGGAc NGAc SHOc PUAEc FUc FOM",
      "c WAc NAc LIc PIc LOQc KOc MBENc RENc MENc MAc TIc KIc MOc MBAAc TETc KPAc TENc NTUU",
      "c SAMBAc FAAMAEc KOVUUc KOGHOMb COMBINING MARK KOQNDONd TUKWENTISb NJAEMLIb FULL STOP",
      "b COLONb COMMAb SEMICOLONb QUESTION MARK"]),
   (0xA700, ["aMODIFIER LETTER CHINESE TONE YIN PINGe YANG PINGe YIN SHANGe YANG SHANGe YIN QU",
      "e YANG QUe YIN RUe YANG RUc EXTRA-HIGH DOTTED TONE BARc HIGH DOTTED TONE BAR",
      "c MID DOTTED TONE BARc LOW DOTTED TONE BARc EXTRA-LOW DOTTED TONE BAR",
      "d-HIGH DOTTED LEFT-STEM TONE BARc HIGH DOTTED LEFT-STEM TONE BAR",
      "c MID DOTTED LEFT-STEM TONE BARc LOW DOTTED LEFT-STEM TONE BAR",
      "c EXTRA-LOW DOTTED LEFT-STEM TONE BARd-HIGH LEFT-STEM TONE BARc HIGH LEFT-STEM TONE BAR",
      "c MID LEFT-STEM TONE BARc LOW LEFT-STEM TONE BARc EXTRA-LOW LEFT-STEM TONE BAR",
      "c DOT VERTICAL BARd SLASHd HORIZONTAL BARc LOWER RIGHT CORNER ANGLEc RAISED UP ARROW",
      "d DOWN ARROWd EXCLAMATION MARKd INVERTED EXCLAMATION MARKc LOW INVERTED EXCLAMATION MARK",
      "c STRESS AND HIGH TONEe LOW TONEaLATIN CAPITAL LETTER EGYPTOLOGICAL ALEF",
      "b SMALL LETTER EGYPTOLOGICAL ALEFb CAPITAL LETTER EGYPTOLOGICAL AIN",
      "b SMALL LETTER EGYPTOLOGICAL AINb CAPITAL LETTER HENGb SMALL LETTER HENG",
      "b CAPITAL LETTER TZb SMALL LETTER TZb CAPITAL LETTER TRESILLOb SMALL LETTER TRESILLO",
      "b CAPITAL LETTER CUATRILLOb SMALL LETTER CUATRILLOb CAPITAL LETTER CUATRILLO WITH COMMA",
      "b SMALL LETTER CUATRILLO WITH COMMAb LETTER SMALL CAPITAL Fe Sb CAPITAL LETTER AA",
      "b SMALL LETTER AAb CAPITAL LETTER AOb SMALL LETTER AOb CAPITAL LETTER AU",
      "b SMALL LETTER AUb CAPITAL LETTER AVb SMALL LETTER AV",
      "b CAPITAL LETTER AV WITH HORIZONTAL BARb SMALL LETTER AV WITH HORIZONTAL BAR",
      "b CAPITAL LETTER AYb SMALL LETTER AYb CAPITAL LETTER REVERSED C WITH DOT",
      "b SMALL LETTER REVERSED C WITH DOTb CAPITAL LETTER K WITH STROKE",
      "b SMALL LETTER K WITH STROKEb CAPITAL LETTER K WITH DIAGONAL STROKE",
      "b SMALL LETTER K WITH DIAGONAL STROKEb CAPITAL LETTER K WITH STROKE AND DIAGONAL STROKE",
      "b SMALL LETTER K WITH STROKE AND DIAGONAL STROKEb CAPITAL LETTER BROKEN L",
      "b SMALL LETTER BROKEN Lb CAPITAL LETTER L WITH HIGH STROKE",
      "b SMALL LETTER L WITH HIGH STROKEb CAPITAL LETTER O WITH LONG STROKE OVERLAY",
      "b SMALL LETTER O WITH LONG STROKE OVERLAYb CAPITAL LETTER O WITH LOOP",
      "b SMALL LETTER O WITH LOOPb CAPITAL LETTER OOb SMALL LETTER OO",
      "b CAPITAL LETTER P WITH STROKE THROUGH DESCENDER",
      "b SMALL LETTER P WITH STROKE THROUGH DESCENDERb CAPITAL LETTER P WITH FLOURISH",
      "b SMALL LETTER P WITH FLOURISHb CAPITAL LETTER P WITH SQUIRREL TAIL",
      "b SMALL LETTER P WITH SQUIRREL TAILb CAPITAL LETTER Q WITH STROKE THROUGH DESCENDER",
      "b SMALL LETTER Q WITH STROKE THROUGH DESCENDERb CAPITAL LETTER Q WITH DIAGONAL STROKE",
      "b SMALL LETTER Q WITH DIAGONAL STROKEb CAPITAL LETTER R ROTUNDAb SMALL LETTER R ROTUNDA",
      "b CAPITAL LETTER RUM ROTUNDAb SMALL LETTER RUM ROTUNDA",
      "b CAPITAL LETTER V WITH DIAGONAL STROKEb SMALL LETTER V WITH DIAGONAL STROKE",
      "b CAPITAL LETTER VYb SMALL LETTER VYb CAPITAL LETTER VISIGOTHIC Z",
      "b SMALL LETTER VISIGOTHIC Zb CAPITAL LETTER THORN WITH STROKE",
      "b SMALL LETTER THORN WITH STROKEb CAPITAL LETTER THORN WITH STROKE THROUGH DESCENDER",
      "b SMALL LETTER THORN WITH STROKE THROUGH DESCENDERb CAPITAL LETTER VEND",
      "b SMALL LETTER VENDb CAPITAL LETTER ETb SMALL LETTER ETb CAPITAL LETTER IS",
      "b SMALL LETTER ISb CAPITAL LETTER CONb SMALL LETTER CONaMODIFIER LETTER US",
      "aLATIN SMALL LETTER DUMd LUMd MUMd NUMd RUMb LETTER SMALL CAPITAL RUMb SMALL LETTER TUM",
      "d UMb CAPITAL LETTER INSULAR Db SMALL LETTER INSULAR Db CAPITAL LETTER INSULAR F",
      "b SMALL LETTER INSULAR Fb CAPITAL LETTER INSULAR Gd TURNED INSULAR G",
      "b SMALL LETTER TURNED INSULAR Gb CAPITAL LETTER TURNED Lb SMALL LETTER TURNED L",
      "b CAPITAL LETTER INSULAR Rb SMALL LETTER INSULAR Rb CAPITAL LETTER INSULAR S",
      "b SMALL LETTER INSULAR Sb CAPITAL LETTER INSULAR Tb SMALL LETTER INSULAR T",
      "aMODIFIER LETTER LOW CIRCUMFLEX ACCENTc COLONc SHORT EQUALS SIGN",
      "aLATIN CAPITAL LETTER SALTILLOb SMALL LETTER SALTILLOb CAPITAL LETTER TURNED H",
      "b SMALL LETTER L WITH RETROFLEX HOOK AND BELTb LETTER SINOLOGICAL DOT",
      "b CAPITAL LETTER N WITH DESCENDERb SMALL LETTER N WITH DESCENDER",
      "b CAPITAL LETTER C WITH BARb SMALL LETTER C WITH BARf PALATAL HOOKd H WITH PALATAL HOOK",
      "b CAPITAL LETTER B WITH FLOURISHb SMALL LETTER B WITH FLOURISH",
      "b CAPITAL LETTER F WITH STROKEb SMALL LETTER F WITH STROKEb CAPITAL LETTER VOLAPUK AE",
      "b SMALL LETTER VOLAPUK AEb CAPITAL LETTER VOLAPUK OEb SMALL LETTER VOLAPUK OE",
      "b CAPITAL LETTER VOLAPUK UEb SMALL LETTER VOLAPUK UE",
      "b CAPITAL LETTER G WITH OBLIQUE STROKEb SMALL LETTER G WITH OBLIQUE STROKE",
      "b CAPITAL LETTER K WITH OBLIQUE STROKEb SMALL LETTER K WITH OBLIQUE STROKE",
      "b CAPITAL LETTER N WITH OBLIQUE STROKEb SMALL LETTER N WITH OBLIQUE STROKE",
      "b CAPITAL LETTER R WITH OBLIQUE STROKEb SMALL LETTER R WITH OBLIQUE STROKE",
      "b CAPITAL LETTER S WITH OBLIQUE STROKEb SMALL LETTER S WITH OBLIQUE STROKE",
      "b CAPITAL LETTER H WITH HOOKd REVERSED OPEN Ed SCRIPT Gd L WITH BELTd SMALL CAPITAL I",
      "b LETTER SMALL CAPITAL Qb CAPITAL LETTER TURNED Ke Td J WITH CROSSED-TAILd CHId BETA",
      "b SMALL LETTER BETAb CAPITAL LETTER OMEGAb SMALL LETTER OMEGA",
      "b CAPITAL LETTER U WITH STROKEb SMALL LETTER U WITH STROKEb CAPITAL LETTER GLOTTAL A",
      "b SMALL LETTER GLOTTAL Ab CAPITAL LETTER GLOTTAL Ib SMALL LETTER GLOTTAL I",
      "b CAPITAL LETTER GLOTTAL Ub SMALL LETTER GLOTTAL Ub CAPITAL LETTER OLD POLISH O",
      "b SMALL LETTER OLD POLISH Ob CAPITAL LETTER ANGLICANA Wb SMALL LETTER ANGLICANA W",
      "b CAPITAL LETTER C WITH PALATAL HOOKd S WITH HOOKd Z WITH PALATAL HOOK",
      "d D WITH SHORT STROKE OVERLAYb SMALL LETTER D WITH SHORT STROKE OVERLAY",
      "b CAPITAL LETTER S WITH SHORT STROKE OVERLAYb SMALL LETTER S WITH SHORT STROKE OVERLAY"]),
   (0xA7D0, ["aLATIN CAPITAL LETTER CLOSED INSULAR Gb SMALL LETTER CLOSED INSULAR G"]),
   (0xA7D3, ["aLATIN SMALL LETTER DOUBLE THORN"]),
   (0xA7D5, ["aLATIN SMALL LETTER DOUBLE WYNNb CAPITAL LETTER MIDDLE SCOTS S",
      "b SMALL LETTER MIDDLE SCOTS Sb CAPITAL LETTER SIGMOID Sb SMALL LETTER SIGMOID S"]),
   (0xA7F2, ["aMODIFIER LETTER CAPITAL Cd Fd QaLATIN CAPITAL LETTER REVERSED HALF H",
      "b SMALL LETTER REVERSED HALF Hb EPIGRAPHIC LETTER SIDEWAYS I",
      "aMODIFIER LETTER CAPITAL H WITH STROKEc SMALL LIGATURE OE",
      "aLATIN LETTER SMALL CAPITAL TURNED Mb EPIGRAPHIC LETTER REVERSED Fe Pd INVERTED M",
      "d I LONGAd ARCHAIC MaSYLOTI NAGRI LETTER Ad Ic SIGN DVISVARAc LETTER Ud Ed O",
      "c SIGN HASANTAc LETTER KOd KHOd GOd GHOc SIGN ANUSVARAc LETTER COd CHOd JOd JHOd TTO",
      "d TTHOd DDOd DDHOd TOd THOd DOd DHOd NOd POd PHOd BOd BHOd MOd ROd LOd RROd SOd HO",
      "c VOWEL SIGN Ae Ie Ue Ee OOc POETRY MARK-1e-2e-3e-4c SIGN ALTERNATE HASANTA"]),
   (0xA830, ["aNORTH INDIC FRACTION ONE QUARTERe HALFd THREE QUARTERSd ONE SIXTEENTHe EIGHTH",
      "d THREE SIXTEENTHSc QUARTER MARKc PLACEHOLDER MARKc RUPEE MARKc QUANTITY MARK"]),
   (0xA840, ["aPHAGS-PA LETTER KAd KHAd GAd NGAd CAd CHAd JAd NYAd TAd THAd DAd NAd PAd PHAd BA",
      "d MAd TSAd TSHAd DZAd WAd ZHAd ZAd SMALL Ad YAd RAd LAd SHAd SAd HAd Ad Id Ud Ed Od QA",
      "d XAd FAd GGAd EEc SUBJOINED LETTER WAe YAc LETTER TTAd TTHAd DDAd NNAd ALTERNATE YA",
      "d VOICELESS SHAd VOICED HAd ASPIRATED FAc SUBJOINED LETTER RAc SUPERFIXED LETTER RA",
      "c LETTER CANDRABINDUc SINGLE HEAD MARKc DOUBLE HEAD MARKc MARK SHADd DOUBLE SHAD"]),
   (0xA880, ["aSAURASHTRA SIGN ANUSVARAc VISARGAb LETTER Ac AAc Ic IIc Uc UUc VOCALIC Rd RRd L",
      "d LLc Ec EEc AIc Oc OOc AUc KAc KHAc GAc GHAc NGAc CAc CHAc JAc JHAc NYAc TTAc TTHAc DDA",
      "c DDHAc NNAc TAc THAc DAc DHAc NAc PAc PHAc BAc BHAc MAc YAc RAc LAc VAc SHAc SSAc SA",
      "c HAc LLAb CONSONANT SIGN HAARUb VOWEL SIGN AAd Id IId Ud UUd VOCALIC Re RRe Le LLd E",
      "d EEd AId Od OOd AUb SIGN VIRAMAc CANDRABINDU"]),
   (0xA8CE, ["aSAURASHTRA DANDAb DOUBLE DANDAb DIGIT ZEROc ONEc TWOc THREEc FOURc FIVEc SIX",
      "c SEVENc EIGHTc NINE"]),
   (0xA8E0, ["aCOMBINING DEVANAGARI DIGIT ZEROd ONEd TWOd THREEd FOURd FIVEd SIXd SEVENd EIGHT",
      "d NINEc LETTER Ad Ud KAd NAd PAd RAd VIc SIGN AVAGRAHA",
      "aDEVANAGARI SIGN SPACING CANDRABINDUc CANDRABINDU VIRAMAc DOUBLE CANDRABINDU VIRAMA",
      "c CANDRABINDU TWOd THREEd AVAGRAHAc PUSHPIKAb GAP FILLERb CARETb HEADSTROKE",
      "b SIGN SIDDHAMb JAIN OMb LETTER AYb VOWEL SIGN AYaKAYAH LI DIGIT ZEROd ONEd TWOd THREE",
      "d FOURd FIVEd SIXd SEVENd EIGHTd NINEc LETTER KAd KHAd GAd NGAd SAd SHAd ZAd NYAd TA",
      "d HTAd NAd PAd PHAd MAd DAd BAd RAd YAd LAd WAd THAd HAd VAd CAd Ad OEd Id OOc VOWEL UE",
      "d Ed Ud EEd Oc TONE PLOPHUd CALYAe PLOPHUc SIGN CWId SHYAaREJANG LETTER KAc GAc NGAc TA",
      "c DAc NAc PAc BAc MAc CAc JAc NYAc SAc RAc LAc YAc WAc HAc MBAc NGGAc NDAc NYJAc A",
      "b VOWEL SIGN Id Ud Ed AId Od AUd EUd EAb CONSONANT SIGN NGd Nd Rd Hb VIRAMA"]),
   (0xA95F, ["aREJANG SECTION MARKaHANGUL CHOSEONG TIKEUT-MIEUMd-PIEUPd-SIOSd-CIEUC",
      "c RIEUL-KIYEOKd-SSANGKIYEOKd-TIKEUTd-SSANGTIKEUTd-MIEUMd-PIEUPd-SSANGPIEUP",
      "d-KAPYEOUNPIEUPd-SIOSd-CIEUCd-KHIEUKHc MIEUM-KIYEOKd-TIKEUTd-SIOSc PIEUP-SIOS-THIEUTH",
      "d-KHIEUKHd-HIEUHc SSANGSIOS-PIEUPc IEUNG-RIEULd-HIEUHc SSANGCIEUC-HIEUHc SSANGTHIEUTH",
      "c PHIEUPH-HIEUHc HIEUH-SIOSc SSANGYEORINHIEUH"]),
   (0xA980, ["aJAVANESE SIGN PANYANGGAc CECAKc LAYARc WIGNYANb LETTER Ac I KAWIdc IIc U",
      "c PA CEREKc NGA LELETe RASWADIc Ec AIc Oc KAd SASAKd MURDAc GAd MURDAc NGAc CAd MURDA",
      "c JAc NYA MURDAc JA MAHAPRANAc NYAc TTAd MAHAPRANAc DDAd MAHAPRANAc NA MURDAc TAd MURDA",
      "c DAd MAHAPRANAc NAc PAd MURDAc BAd MURDAc MAc YAc RAd AGUNGc LAc WAc SA MURDA",
      "d MAHAPRANAdc HAb SIGN CECAK TELUb VOWEL SIGN TARUNGd TOLONGd WULUe MELIKd SUKUe MENDUT",
      "d TALINGd DIRGA MUREd PEPETb CONSONANT SIGN KERETd PENGKALd CAKRAb PANGKON",
      "b LEFT RERENGGANb RIGHT RERENGGANb PADA ANDAPc MADYAc LUHURc WINDUc PANGKATc LINGSA",
      "c LUNGSIc ADEGd ADEGc PISELEHb TURNED PADA PISELEH"]),
   (0xA9CF, ["aJAVANESE PANGRANGKEPb DIGIT ZEROc ONEc TWOc THREEc FOURc FIVEc SIXc SEVENc EIGHT",
      "c NINE"]),
   (0xA9DE, ["aJAVANESE PADA TIRTA TUMETESc ISEN-ISENaMYANMAR LETTER SHAN GHAd CHAd JHAd NNA",
      "d BHAb SIGN SHAN SAWb MODIFIER LETTER SHAN REDUPLICATIONb LETTER TAI LAING NYAe FAe GA",
      "e GHAe JAe JHAe DDAe DDHAe NNAb TAI LAING DIGIT ZEROe ONEe TWOe THREEe FOURe FIVEe SIX",
      "e SEVENe EIGHTe NINEb LETTER TAI LAING LLAe DAe DHAe BAe BHA"]),
   (0xAA00, ["aCHAM LETTER Ac Ic Uc Ec AIc Oc KAc KHAc GAc GHAc NGUEc NGAc CHAc CHHAc JAc JHA",
      "c NHUEc NHAc NHJAc TAc THAc DAc DHAc NUEc NAc DDAc PAc PPAc PHAc BAc BHAc MUEc MAc BBA",
      "c YAc RAc LAc VAc SSAc SAc HAb VOWEL SIGN AAd Id IId EId Ud OEd Od AId AUd UE",
      "b CONSONANT SIGN YAd RAd LAd WA"]),
   (0xAA40, ["aCHAM LETTER FINAL Kd Gd NGb CONSONANT SIGN FINAL NGb LETTER FINAL CHd Td Nd Pd Y",
      "d Rd Ld SSb CONSONANT SIGN FINAL Me H"]),
   (0xAA50, ["aCHAM DIGIT ZEROc ONEc TWOc THREEc FOURc FIVEc SIXc SEVENc EIGHTc NINE"]),
   (0xAA5C, ["aCHAM PUNCTUATION SPIRALc DANDAc DOUBLE DANDAc TRIPLE DANDA",
      "aMYANMAR LETTER KHAMTI GAd CAd CHAd JAd JHAd NYAd TTAd TTHAd DDAd DDHAd DHAd NAd SAd HA",
      "d HHAd FAb MODIFIER LETTER KHAMTI REDUPLICATIONb LETTER KHAMTI XAd ZAd RA",
      "b LOGOGRAM KHAMTI OAYd QNd HMb SYMBOL AITON EXCLAMATIONd ONEd TWOb LETTER AITON RA",
      "b SIGN PAO KAREN TONEc TAI LAING TONE-2f-5b LETTER SHWE PALAUNG CHAe SHA",
      "aTAI VIET LETTER LOW KOd HIGH KOd LOW KHOd HIGH KHOd LOW KHHOd HIGH KHHOd LOW GO",
      "d HIGH GOd LOW NGOd HIGH NGOd LOW COd HIGH COd LOW CHOd HIGH CHOd LOW SOd HIGH SO",
      "d LOW NYOd HIGH NYOd LOW DOd HIGH DOd LOW TOd HIGH TOd LOW THOd HIGH THOd LOW NO",
      "d HIGH NOd LOW BOd HIGH BOd LOW POd HIGH POd LOW PHOd HIGH PHOd LOW FOd HIGH FOd LOW MO",
      "d HIGH MOd LOW YOd HIGH YOd LOW ROd HIGH ROd LOW LOd HIGH LOd LOW VOd HIGH VOd LOW HO",
      "d HIGH HOd LOW Od HIGH Oc MAI KANGc VOWEL AAd Id UEd Ud Ed Oc MAI KHITc VOWEL IAd UEA",
      "d UAd AUEd AYd ANd AMc TONE MAI EKe NUENGe THOe SONG"]),
   (0xAADB, ["aTAI VIET SYMBOL KONd NUENGd SAMd HO HOId KOI KOIaMEETEI MAYEK LETTER Ed Od CHA",
      "d NYAd TTAd TTHAd DDAd DDHAd NNAd SHAd SSAc VOWEL SIGN IIe UUe AAIe AUe AAUc CHEIKHAN",
      "c AHANG KHUDAMc ANJIc SYLLABLE REPETITION MARKc WORD REPETITION MARKc VOWEL SIGN VISARGA",
      "c VIRAMA"]),
   (0xAB01, ["aETHIOPIC SYLLABLE TTHUc TTHIc TTHAAc TTHEEc TTHEc TTHO"]),
   (0xAB09, ["aETHIOPIC SYLLABLE DDHUc DDHIc DDHAAc DDHEEc DDHEc DDHO"]),
   (0xAB11, ["aETHIOPIC SYLLABLE DZUc DZIc DZAAc DZEEc DZEc DZO"]),
   (0xAB20, ["aETHIOPIC SYLLABLE CCHHAc CCHHUc CCHHIc CCHHAAc CCHHEEc CCHHEc CCHHO"]),
   (0xAB28, ["aETHIOPIC SYLLABLE BBAc BBUc BBIc BBAAc BBEEc BBEc BBO"]),
   (0xAB30, ["aLATIN SMALL LETTER BARRED ALPHAd A REVERSED-SCHWAd BLACKLETTER Ed BARRED E",
      "d E WITH FLOURISHd LENIS Fd SCRIPT G WITH CROSSED-TAILd L WITH INVERTED LAZY S",
      "f DOUBLE MIDDLE TILDEf MIDDLE RINGd M WITH CROSSED-TAILd N WITH CROSSED-TAIL",
      "d ENG WITH CROSSED-TAILd BLACKLETTER Of WITH STROKEd OPEN O WITH STROKEd INVERTED OE",
      "d TURNED OE WITH STROKEg HORIZONTAL STROKEe O OPEN-Oh WITH STROKEd STIRRUP R",
      "b LETTER SMALL CAPITAL R WITH RIGHT LEGb SMALL LETTER R WITHOUT HANDLEd DOUBLE R",
      "d R WITH CROSSED-TAILd DOUBLE R WITH CROSSED-TAILd SCRIPT Rf WITH RINGd BASELINE ESH",
      "d U WITH SHORT RIGHT LEGe BAR WITH SHORT RIGHT LEGd UId TURNED UId U WITH LEFT HOOKd CHI",
      "e WITH LOW RIGHT RINGg LEFT SERIFd X WITH LOW RIGHT RINGf LONG LEFT LEG",
      "i AND LOW RIGHT RINGi WITH SERIFd Y WITH SHORT RIGHT LEG",
      "aMODIFIER BREVE WITH INVERTED BREVEb LETTER SMALL HENGd L WITH INVERTED LAZY S",
      "f MIDDLE TILDEd U WITH LEFT HOOKaLATIN SMALL LETTER SAKHA YATd IOTIFIED Ed OPEN OEd UO",
      "d INVERTED ALPHAaGREEK LETTER SMALL CAPITAL OMEGA",
      "aLATIN SMALL LETTER DZ DIGRAPH WITH RETROFLEX HOOKd TS DIGRAPH WITH RETROFLEX HOOK",
      "d TURNED R WITH MIDDLE TILDEaMODIFIER LETTER SMALL TURNED Wc LEFT TACKc RIGHT TACK"]),
   (0xAB70, ["aCHEROKEE SMALL LETTER Ad Ed Id Od Ud Vd GAd KAd GEd GId GOd GUd GVd HAd HEd HI",
      "d HOd HUd HVd LAd LEd LId LOd LUd LVd MAd MEd MId MOd MUd NAd HNAd NAHd NEd NId NOd NU",
      "d NVd QUAd QUEd QUId QUOd QUUd QUVd SAd Sd SEd SId SOd SUd SVd DAd TAd DEd TEd DId TI",
      "d DOd DUd DVd DLAd TLAd TLEd TLId TLOd TLUd TLVd TSAd TSEd TSId TSOd TSUd TSVd WAd WE",
      "d WId WOd WUd WVd YAaMEETEI MAYEK LETTER KOKd SAMd LAId MITd PAd NAd CHILd TILd KHOU",
      "d NGOUd THOUd WAId YANGd HUKd UNd Id PHAMd ATIYAd GOKd JHAMd RAId BAd JILd DILd GHOU",
      "d DHOUd BHAMd KOK LONSUMd LAI LONSUMd MIT LONSUMd PA LONSUMd NA LONSUMd TIL LONSUM",
      "d NGOU LONSUMd I LONSUMc VOWEL SIGN ONAPe INAPe ANAPe YENAPe SOUNAPe UNAPe CHEINAPe NUNG",
      "c CHEIKHEIc LUM IYEKc APUN IYEK"]),
   (0xABF0, ["aMEETEI MAYEK DIGIT ZEROd ONEd TWOd THREEd FOURd FIVEd SIXd SEVENd EIGHTd NINE"]),
   (0xD7B0, ["aHANGUL JUNGSEONG O-YEOd-O-Ic YO-Ad-AEd-EOc U-YEOd-I-Ic YU-AEd-Oc EU-Ad-EOd-Ed-O",
      "c I-YA-Od-YAEd-YEOd-YEd-O-Id-YOd-YUd-Ic ARAEA-Ad-E"]),
   (0xD7CB, ["aHANGUL JONGSEONG NIEUN-RIEULd-CHIEUCHc SSANGTIKEUTd-PIEUPc TIKEUT-PIEUPd-SIOS",
      "e-KIYEOKd-CIEUCd-CHIEUCHd-THIEUTHc RIEUL-SSANGKIYEOKd-KIYEOK-HIEUHc SSANGRIEUL-KHIEUKH",
      "c RIEUL-MIEUM-HIEUHd-PIEUP-TIKEUTe-PHIEUPHd-YESIEUNGd-YEORINHIEUH-HIEUHc KAPYEOUNRIEUL",
      "c MIEUM-NIEUNd-SSANGNIEUNc SSANGMIEUMc MIEUM-PIEUP-SIOSd-CIEUCc PIEUP-TIKEUT",
      "d-RIEUL-PHIEUPHd-MIEUMc SSANGPIEUPc PIEUP-SIOS-TIKEUTd-CIEUCd-CHIEUCHc SIOS-MIEUM",
      "d-KAPYEOUNPIEUPc SSANGSIOS-KIYEOKd-TIKEUTc SIOS-PANSIOSd-CIEUCd-CHIEUCHd-THIEUTHd-HIEUH",
      "c PANSIOS-PIEUPd-KAPYEOUNPIEUPc YESIEUNG-MIEUMd-HIEUHc CIEUC-PIEUPd-SSANGPIEUP",
      "c SSANGCIEUCc PHIEUPH-SIOSd-THIEUTH"]),
   (0xFB00, ["aLATIN SMALL LIGATURE FFd FId FLd FFId FFLd LONG S Td ST"]),
   (0xFB13, ["aARMENIAN SMALL LIGATURE MEN NOWe ECHe INId VEW NOWd MEN XEH"]),
   (0xFB1D, ["aHEBREW LETTER YOD WITH HIRIQb POINT JUDEO-SPANISH VARIKA",
      "b LIGATURE YIDDISH YOD YOD PATAHb LETTER ALTERNATIVE AYINc WIDE ALEFd DALETd HEd KAF",
      "d LAMEDd FINAL MEMd RESHd TAVc ALTERNATIVE PLUS SIGNc SHIN WITH SHIN DOTe SIN DOT",
      "e DAGESH AND SHIN DOTg SIN DOTc ALEF WITH PATAHe QAMATSe MAPIQc BET WITH DAGESH",
      "c GIMEL WITH DAGESHc DALET WITH DAGESHc HE WITH MAPIQc VAV WITH DAGESH",
      "c ZAYIN WITH DAGESH"]),
   (0xFB38, ["aHEBREW LETTER TET WITH DAGESHc YOD WITH DAGESHc FINAL KAF WITH DAGESH",
      "c KAF WITH DAGESHc LAMED WITH DAGESH"]),
   (0xFB3E, ["aHEBREW LETTER MEM WITH DAGESH"]),
   (0xFB40, ["aHEBREW LETTER NUN WITH DAGESHc SAMEKH WITH DAGESH"]),
   (0xFB43, ["aHEBREW LETTER FINAL PE WITH DAGESHc PE WITH DAGESH"]),
   (0xFB46, ["aHEBREW LETTER TSADI WITH DAGESHc QOF WITH DAGESHc RESH WITH DAGESH",
      "c SHIN WITH DAGESHc TAV WITH DAGESHc VAV WITH HOLAMc BET WITH RAFEc KAF WITH RAFE",
      "c PE WITH RAFEb LIGATURE ALEF LAMEDaARABIC LETTER ALEF WASLA ISOLATED FORMe FINAL FORM",
      "c BEEH ISOLATED FORMd FINAL FORMd INITIAL FORMd MEDIAL FORMc PEH ISOLATED FORM",
      "d FINAL FORMd INITIAL FORMd MEDIAL FORMc BEHEH ISOLATED FORMd FINAL FORMd INITIAL FORM",
      "d MEDIAL FORMc TTEHEH ISOLATED FORMd FINAL FORMd INITIAL FORMd MEDIAL FORM",
      "c TEHEH ISOLATED FORMd FINAL FORMd INITIAL FORMd MEDIAL FORMc TTEH ISOLATED FORM",
      "d FINAL FORMd INITIAL FORMd MEDIAL FORMc VEH ISOLATED FORMd FINAL FORMd INITIAL FORM",
      "d MEDIAL FORMc PEHEH ISOLATED FORMd FINAL FORMd INITIAL FORMd MEDIAL FORM",
      "c DYEH ISOLATED FORMd FINAL FORMd INITIAL FORMd MEDIAL FORMc NYEH ISOLATED FORM",
      "d FINAL FORMd INITIAL FORMd MEDIAL FORMc TCHEH ISOLATED FORMd FINAL FORMd INITIAL FORM",
      "d MEDIAL FORMc TCHEHEH ISOLATED FORMd FINAL FORMd INITIAL FORMd MEDIAL FORM",
      "c DDAHAL ISOLATED FORMd FINAL FORMc DAHAL ISOLATED FORMd FINAL FORMc DUL ISOLATED FORM",
      "d FINAL FORMc DDAL ISOLATED FORMd FINAL FORMc JEH ISOLATED FORMd FINAL FORM",
      "c RREH ISOLATED FORMd FINAL FORMc KEHEH ISOLATED FORMd FINAL FORMd INITIAL FORM",
      "d MEDIAL FORMc GAF ISOLATED FORMd FINAL FORMd INITIAL FORMd MEDIAL FORM",
      "c GUEH ISOLATED FORMd FINAL FORMd INITIAL FORMd MEDIAL FORMc NGOEH ISOLATED FORM",
      "d FINAL FORMd INITIAL FORMd MEDIAL FORMc NOON GHUNNA ISOLATED FORMe FINAL FORM",
      "c RNOON ISOLATED FORMd FINAL FORMd INITIAL FORMd MEDIAL FORM",
      "c HEH WITH YEH ABOVE ISOLATED FORMg FINAL FORMd GOAL ISOLATED FORMe FINAL FORM",
      "e INITIAL FORMe MEDIAL FORMd DOACHASHMEE ISOLATED FORMe FINAL FORMe INITIAL FORM",
      "e MEDIAL FORMc YEH BARREE ISOLATED FORMe FINAL FORMe WITH HAMZA ABOVE ISOLATED FORM",
      "h FINAL FORMb SYMBOL DOT ABOVEd BELOWc TWO DOTS ABOVEe BELOWc THREE DOTS ABOVEe BELOW",
      "e POINTING DOWNWARDS ABOVEg BELOWc FOUR DOTS ABOVEe BELOWc DOUBLE VERTICAL BAR BELOW",
      "c TWO DOTS VERTICALLY ABOVEf BELOWc RINGc SMALL TAH ABOVEe BELOWc WASLA ABOVE"]),
   (0xFBD3, ["aARABIC LETTER NG ISOLATED FORMd FINAL FORMd INITIAL FORMd MEDIAL FORM",
      "c U ISOLATED FORMd FINAL FORMc OE ISOLATED FORMd FINAL FORMc YU ISOLATED FORM",
      "d FINAL FORMc U WITH HAMZA ABOVE ISOLATED FORMc VE ISOLATED FORMd FINAL FORM",
      "c KIRGHIZ OE ISOLATED FORMe FINAL FORMd YU ISOLATED FORMe FINAL FORMc E ISOLATED FORM",
      "d FINAL FORMd INITIAL FORMd MEDIAL FORMc UIGHUR KAZAKH KIRGHIZ ALEF MAKSURA INITIAL FORM",
      "h MEDIAL FORMb LIGATURE YEH WITH HAMZA ABOVE WITH ALEF ISOLATED FORMi FINAL FORM",
      "h AE ISOLATED FORMi FINAL FORMh WAW ISOLATED FORMi FINAL FORMh U ISOLATED FORM",
      "i FINAL FORMh OE ISOLATED FORMi FINAL FORMh YU ISOLATED FORMi FINAL FORM",
      "h E ISOLATED FORMi FINAL FORMi INITIAL FORM",
      "c UIGHUR KIRGHIZ YEH WITH HAMZA ABOVE WITH ALEF MAKSURA ISOLATED FORMl FINAL FORM",
      "l INITIAL FORMb LETTER FARSI YEH ISOLATED FORMe FINAL FORMe INITIAL FORMe MEDIAL FORM",
      "b LIGATURE YEH WITH HAMZA ABOVE WITH JEEM ISOLATED FORMh HAH ISOLATED FORM",
      "h MEEM ISOLATED FORMh ALEF MAKSURA ISOLATED FORMh YEH ISOLATED FORM",
      "c BEH WITH JEEM ISOLATED FORMe HAH ISOLATED FORMe KHAH ISOLATED FORMe MEEM ISOLATED FORM",
      "e ALEF MAKSURA ISOLATED FORMe YEH ISOLATED FORMc TEH WITH JEEM ISOLATED FORM",
      "e HAH ISOLATED FORMe KHAH ISOLATED FORMe MEEM ISOLATED FORMe ALEF MAKSURA ISOLATED FORM",
      "e YEH ISOLATED FORMc THEH WITH JEEM ISOLATED FORMe MEEM ISOLATED FORM",
      "e ALEF MAKSURA ISOLATED FORMe YEH ISOLATED FORMc JEEM WITH HAH ISOLATED FORM",
      "e MEEM ISOLATED FORMc HAH WITH JEEM ISOLATED FORMe MEEM ISOLATED FORM",
      "c KHAH WITH JEEM ISOLATED FORMe HAH ISOLATED FORMe MEEM ISOLATED FORM",
      "c SEEN WITH JEEM ISOLATED FORMe HAH ISOLATED FORMe KHAH ISOLATED FORM",
      "e MEEM ISOLATED FORMc SAD WITH HAH ISOLATED FORMe MEEM ISOLATED FORM",
      "c DAD WITH JEEM ISOLATED FORMe HAH ISOLATED FORMe KHAH ISOLATED FORMe MEEM ISOLATED FORM",
      "c TAH WITH HAH ISOLATED FORMe MEEM ISOLATED FORMc ZAH WITH MEEM ISOLATED FORM",
      "c AIN WITH JEEM ISOLATED FORMe MEEM ISOLATED FORMc GHAIN WITH JEEM ISOLATED FORM",
      "e MEEM ISOLATED FORMc FEH WITH JEEM ISOLATED FORMe HAH ISOLATED FORMe KHAH ISOLATED FORM",
      "e MEEM ISOLATED FORMe ALEF MAKSURA ISOLATED FORMe YEH ISOLATED FORM",
      "c QAF WITH HAH ISOLATED FORMe MEEM ISOLATED FORMe ALEF MAKSURA ISOLATED FORM",
      "e YEH ISOLATED FORMc KAF WITH ALEF ISOLATED FORMe JEEM ISOLATED FORMe HAH ISOLATED FORM",
      "e KHAH ISOLATED FORMe LAM ISOLATED FORMe MEEM ISOLATED FORMe ALEF MAKSURA ISOLATED FORM",
      "e YEH ISOLATED FORMc LAM WITH JEEM ISOLATED FORMe HAH ISOLATED FORMe KHAH ISOLATED FORM",
      "e MEEM ISOLATED FORMe ALEF MAKSURA ISOLATED FORMe YEH ISOLATED FORM",
      "c MEEM WITH JEEM ISOLATED FORMe HAH ISOLATED FORMe KHAH ISOLATED FORM",
      "e MEEM ISOLATED FORMe ALEF MAKSURA ISOLATED FORMe YEH ISOLATED FORM",
      "c NOON WITH JEEM ISOLATED FORMe HAH ISOLATED FORMe KHAH ISOLATED FORM",
      "e MEEM ISOLATED FORMe ALEF MAKSURA ISOLATED FORMe YEH ISOLATED FORM",
      "c HEH WITH JEEM ISOLATED FORMe MEEM ISOLATED FORMe ALEF MAKSURA ISOLATED FORM",
      "e YEH ISOLATED FORMc YEH WITH JEEM ISOLATED FORMe HAH ISOLATED FORMe KHAH ISOLATED FORM",
      "e MEEM ISOLATED FORMe ALEF MAKSURA ISOLATED FORMe YEH ISOLATED FORM",
      "c THAL WITH SUPERSCRIPT ALEF ISOLATED FORMc REH WITH SUPERSCRIPT ALEF ISOLATED FORM",
      "c ALEF MAKSURA WITH SUPERSCRIPT ALEF ISOLATED FORMc SHADDA WITH DAMMATAN ISOLATED FORM",
      "e KASRATAN ISOLATED FORMe FATHA ISOLATED FORMe DAMMA ISOLATED FORMe KASRA ISOLATED FORM",
      "e SUPERSCRIPT ALEF ISOLATED FORMc YEH WITH HAMZA ABOVE WITH REH FINAL FORM",
      "h ZAIN FINAL FORMh MEEM FINAL FORMh NOON FINAL FORMh ALEF MAKSURA FINAL FORM",
      "h YEH FINAL FORMc BEH WITH REH FINAL FORMe ZAIN FINAL FORMe MEEM FINAL FORM",
      "e NOON FINAL FORMe ALEF MAKSURA FINAL FORMe YEH FINAL FORMc TEH WITH REH FINAL FORM",
      "e ZAIN FINAL FORMe MEEM FINAL FORMe NOON FINAL FORMe ALEF MAKSURA FINAL FORM",
      "e YEH FINAL FORMc THEH WITH REH FINAL FORMe ZAIN FINAL FORMe MEEM FINAL FORM",
      "e NOON FINAL FORMe ALEF MAKSURA FINAL FORMe YEH FINAL FORM",
      "c FEH WITH ALEF MAKSURA FINAL FORMe YEH FINAL FORMc QAF WITH ALEF MAKSURA FINAL FORM",
      "e YEH FINAL FORMc KAF WITH ALEF FINAL FORMe LAM FINAL FORMe MEEM FINAL FORM",
      "e ALEF MAKSURA FINAL FORMe YEH FINAL FORMc LAM WITH MEEM FINAL FORM",
      "e ALEF MAKSURA FINAL FORMe YEH FINAL FORMc MEEM WITH ALEF FINAL FORMe MEEM FINAL FORM",
      "c NOON WITH REH FINAL FORMe ZAIN FINAL FORMe MEEM FINAL FORMe NOON FINAL FORM",
      "e ALEF MAKSURA FINAL FORMe YEH FINAL FORMc ALEF MAKSURA WITH SUPERSCRIPT ALEF FINAL FORM",
      "c YEH WITH REH FINAL FORMe ZAIN FINAL FORMe MEEM FINAL FORMe NOON FINAL FORM",
      "e ALEF MAKSURA FINAL FORMe YEH FINAL FORMe HAMZA ABOVE WITH JEEM INITIAL FORM",
      "h HAH INITIAL FORMh KHAH INITIAL FORMh MEEM INITIAL FORMh HEH INITIAL FORM",
      "c BEH WITH JEEM INITIAL FORMe HAH INITIAL FORMe KHAH INITIAL FORMe MEEM INITIAL FORM",
      "e HEH INITIAL FORMc TEH WITH JEEM INITIAL FORMe HAH INITIAL FORMe KHAH INITIAL FORM",
      "e MEEM INITIAL FORMe HEH INITIAL FORMc THEH WITH MEEM INITIAL FORM",
      "c JEEM WITH HAH INITIAL FORMe MEEM INITIAL FORMc HAH WITH JEEM INITIAL FORM",
      "e MEEM INITIAL FORMc KHAH WITH JEEM INITIAL FORMe MEEM INITIAL FORM",
      "c SEEN WITH JEEM INITIAL FORMe HAH INITIAL FORMe KHAH INITIAL FORMe MEEM INITIAL FORM",
      "c SAD WITH HAH INITIAL FORMe KHAH INITIAL FORMe MEEM INITIAL FORM",
      "c DAD WITH JEEM INITIAL FORMe HAH INITIAL FORMe KHAH INITIAL FORMe MEEM INITIAL FORM",
      "c TAH WITH HAH INITIAL FORMc ZAH WITH MEEM INITIAL FORMc AIN WITH JEEM INITIAL FORM",
      "e MEEM INITIAL FORMc GHAIN WITH JEEM INITIAL FORMe MEEM INITIAL FORM",
      "c FEH WITH JEEM INITIAL FORMe HAH INITIAL FORMe KHAH INITIAL FORMe MEEM INITIAL FORM",
      "c QAF WITH HAH INITIAL FORMe MEEM INITIAL FORMc KAF WITH JEEM INITIAL FORM",
      "e HAH INITIAL FORMe KHAH INITIAL FORMe LAM INITIAL FORMe MEEM INITIAL FORM",
      "c LAM WITH JEEM INITIAL FORMe HAH INITIAL FORMe KHAH INITIAL FORMe MEEM INITIAL FORM",
      "e HEH INITIAL FORMc MEEM WITH JEEM INITIAL FORMe HAH INITIAL FORMe KHAH INITIAL FORM",
      "e MEEM INITIAL FORMc NOON WITH JEEM INITIAL FORMe HAH INITIAL FORMe KHAH INITIAL FORM",
      "e MEEM INITIAL FORMe HEH INITIAL FORMc HEH WITH JEEM INITIAL FORMe MEEM INITIAL FORM",
      "e SUPERSCRIPT ALEF INITIAL FORMc YEH WITH JEEM INITIAL FORMe HAH INITIAL FORM",
      "e KHAH INITIAL FORMe MEEM INITIAL FORMe HEH INITIAL FORM",
      "e HAMZA ABOVE WITH MEEM MEDIAL FORMh HEH MEDIAL FORMc BEH WITH MEEM MEDIAL FORM",
      "e HEH MEDIAL FORMc TEH WITH MEEM MEDIAL FORMe HEH MEDIAL FORM",
      "c THEH WITH MEEM MEDIAL FORMe HEH MEDIAL FORMc SEEN WITH MEEM MEDIAL FORM",
      "e HEH MEDIAL FORMc SHEEN WITH MEEM MEDIAL FORMe HEH MEDIAL FORM",
      "c KAF WITH LAM MEDIAL FORMe MEEM MEDIAL FORMc LAM WITH MEEM MEDIAL FORM",
      "c NOON WITH MEEM MEDIAL FORMe HEH MEDIAL FORMc YEH WITH MEEM MEDIAL FORM",
      "e HEH MEDIAL FORMc SHADDA WITH FATHA MEDIAL FORMe DAMMA MEDIAL FORMe KASRA MEDIAL FORM",
      "c TAH WITH ALEF MAKSURA ISOLATED FORMe YEH ISOLATED FORM",
      "c AIN WITH ALEF MAKSURA ISOLATED FORMe YEH ISOLATED FORM",
      "c GHAIN WITH ALEF MAKSURA ISOLATED FORMe YEH ISOLATED FORM",
      "c SEEN WITH ALEF MAKSURA ISOLATED FORMe YEH ISOLATED FORM",
      "c SHEEN WITH ALEF MAKSURA ISOLATED FORMe YEH ISOLATED FORM",
      "c HAH WITH ALEF MAKSURA ISOLATED FORMe YEH ISOLATED FORM",
      "c JEEM WITH ALEF MAKSURA ISOLATED FORMe YEH ISOLATED FORM",
      "c KHAH WITH ALEF MAKSURA ISOLATED FORMe YEH ISOLATED FORM",
      "c SAD WITH ALEF MAKSURA ISOLATED FORMe YEH ISOLATED FORM",
      "c DAD WITH ALEF MAKSURA ISOLATED FORMe YEH ISOLATED FORMc SHEEN WITH JEEM ISOLATED FORM",
      "e HAH ISOLATED FORMe KHAH ISOLATED FORMe MEEM ISOLATED FORMe REH ISOLATED FORM",
      "c SEEN WITH REH ISOLATED FORMc SAD WITH REH ISOLATED FORMc DAD WITH REH ISOLATED FORM",
      "c TAH WITH ALEF MAKSURA FINAL FORMe YEH FINAL FORMc AIN WITH ALEF MAKSURA FINAL FORM",
      "e YEH FINAL FORMc GHAIN WITH ALEF MAKSURA FINAL FORMe YEH FINAL FORM",
      "c SEEN WITH ALEF MAKSURA FINAL FORMe YEH FINAL FORMc SHEEN WITH ALEF MAKSURA FINAL FORM",
      "e YEH FINAL FORMc HAH WITH ALEF MAKSURA FINAL FORMe YEH FINAL FORM",
      "c JEEM WITH ALEF MAKSURA FINAL FORMe YEH FINAL FORMc KHAH WITH ALEF MAKSURA FINAL FORM",
      "e YEH FINAL FORMc SAD WITH ALEF MAKSURA FINAL FORMe YEH FINAL FORM",
      "c DAD WITH ALEF MAKSURA FINAL FORMe YEH FINAL FORMc SHEEN WITH JEEM FINAL FORM",
      "e HAH FINAL FORMe KHAH FINAL FORMe MEEM FINAL FORMe REH FINAL FORM",
      "c SEEN WITH REH FINAL FORMc SAD WITH REH FINAL FORMc DAD WITH REH FINAL FORM",
      "c SHEEN WITH JEEM INITIAL FORMe HAH INITIAL FORMe KHAH INITIAL FORMe MEEM INITIAL FORM",
      "c SEEN WITH HEH INITIAL FORMc SHEEN WITH HEH INITIAL FORMc TAH WITH MEEM INITIAL FORM",
      "c SEEN WITH JEEM MEDIAL FORMe HAH MEDIAL FORMe KHAH MEDIAL FORM",
      "c SHEEN WITH JEEM MEDIAL FORMe HAH MEDIAL FORMe KHAH MEDIAL FORM",
      "c TAH WITH MEEM MEDIAL FORMc ZAH WITH MEEM MEDIAL FORMc ALEF WITH FATHATAN FINAL FORM",
      "f ISOLATED FORMaORNATE LEFT PARENTHESISb RIGHT PARENTHESIS",
      "aARABIC LIGATURE RAHIMAHU ALLAAHc RADI ALLAAHU ANHe ANHAAe ANHUMe ANHUMAAe ANHUNNA",
      "c SALLALLAAHU ALAYHI WA-AALIHc ALAYHI AS-SALAAMc ALAYHIM AS-SALAAMc ALAYHIMAA AS-SALAAM",
      "c ALAYHI AS-SALAATU WAS-SALAAMc QUDDISA SIRRAHc SALLALLAHU ALAYHI WAAALIHEE WA-SALLAM",
      "c ALAYHAA AS-SALAAMc TABAARAKA WA-TAAALAAc RAHIMAHUM ALLAAH",
      "c TEH WITH JEEM WITH MEEM INITIAL FORMe HAH WITH JEEM FINAL FORMh INITIAL FORM",
      "g MEEM INITIAL FORMe KHAH WITH MEEM INITIAL FORMe MEEM WITH JEEM INITIAL FORM",
      "g HAH INITIAL FORMg KHAH INITIAL FORMc JEEM WITH MEEM WITH HAH FINAL FORMh INITIAL FORM",
      "c HAH WITH MEEM WITH YEH FINAL FORMg ALEF MAKSURA FINAL FORM",
      "c SEEN WITH HAH WITH JEEM INITIAL FORMe JEEM WITH HAH INITIAL FORM",
      "g ALEF MAKSURA FINAL FORMe MEEM WITH HAH FINAL FORMh INITIAL FORMg JEEM INITIAL FORM",
      "g MEEM FINAL FORMh INITIAL FORMc SAD WITH HAH WITH HAH FINAL FORMh INITIAL FORM",
      "e MEEM WITH MEEM FINAL FORMc SHEEN WITH HAH WITH MEEM FINAL FORMh INITIAL FORM",
      "e JEEM WITH YEH FINAL FORMe MEEM WITH KHAH FINAL FORMh INITIAL FORMg MEEM FINAL FORM",
      "h INITIAL FORMc DAD WITH HAH WITH ALEF MAKSURA FINAL FORMe KHAH WITH MEEM FINAL FORM",
      "h INITIAL FORMc TAH WITH MEEM WITH HAH FINAL FORMh INITIAL FORMg MEEM INITIAL FORM",
      "g YEH FINAL FORMc AIN WITH JEEM WITH MEEM FINAL FORMe MEEM WITH MEEM FINAL FORM",
      "h INITIAL FORMg ALEF MAKSURA FINAL FORMc GHAIN WITH MEEM WITH MEEM FINAL FORM",
      "g YEH FINAL FORMg ALEF MAKSURA FINAL FORMc FEH WITH KHAH WITH MEEM FINAL FORM",
      "h INITIAL FORMc QAF WITH MEEM WITH HAH FINAL FORMg MEEM FINAL FORM",
      "c LAM WITH HAH WITH MEEM FINAL FORMg YEH FINAL FORMg ALEF MAKSURA FINAL FORM",
      "e JEEM WITH JEEM INITIAL FORMh FINAL FORMe KHAH WITH MEEM FINAL FORMh INITIAL FORM",
      "e MEEM WITH HAH FINAL FORMh INITIAL FORMc MEEM WITH HAH WITH JEEM INITIAL FORM",
      "g MEEM INITIAL FORMg YEH FINAL FORMe JEEM WITH HAH INITIAL FORMg MEEM INITIAL FORM",
      "e KHAH WITH JEEM INITIAL FORMg MEEM INITIAL FORM"]),
   (0xFD92, ["aARABIC LIGATURE MEEM WITH JEEM WITH KHAH INITIAL FORM",
      "c HEH WITH MEEM WITH JEEM INITIAL FORMg MEEM INITIAL FORM",
      "c NOON WITH HAH WITH MEEM INITIAL FORMg ALEF MAKSURA FINAL FORM",
      "e JEEM WITH MEEM FINAL FORMh INITIAL FORMg ALEF MAKSURA FINAL FORM",
      "e MEEM WITH YEH FINAL FORMg ALEF MAKSURA FINAL FORMc YEH WITH MEEM WITH MEEM FINAL FORM",
      "h INITIAL FORMc BEH WITH KHAH WITH YEH FINAL FORMc TEH WITH JEEM WITH YEH FINAL FORM",
      "g ALEF MAKSURA FINAL FORMe KHAH WITH YEH FINAL FORMg ALEF MAKSURA FINAL FORM",
      "e MEEM WITH YEH FINAL FORMg ALEF MAKSURA FINAL FORMc JEEM WITH MEEM WITH YEH FINAL FORM",
      "e HAH WITH ALEF MAKSURA FINAL FORMe MEEM WITH ALEF MAKSURA FINAL FORM",
      "c SEEN WITH KHAH WITH ALEF MAKSURA FINAL FORMc SAD WITH HAH WITH YEH FINAL FORM",
      "c SHEEN WITH HAH WITH YEH FINAL FORMc DAD WITH HAH WITH YEH FINAL FORM",
      "c LAM WITH JEEM WITH YEH FINAL FORMe MEEM WITH YEH FINAL FORM",
      "c YEH WITH HAH WITH YEH FINAL FORMe JEEM WITH YEH FINAL FORMe MEEM WITH YEH FINAL FORM",
      "c MEEM WITH MEEM WITH YEH FINAL FORMc QAF WITH MEEM WITH YEH FINAL FORM",
      "c NOON WITH HAH WITH YEH FINAL FORMc QAF WITH MEEM WITH HAH INITIAL FORM",
      "c LAM WITH HAH WITH MEEM INITIAL FORMc AIN WITH MEEM WITH YEH FINAL FORM",
      "c KAF WITH MEEM WITH YEH FINAL FORMc NOON WITH JEEM WITH HAH INITIAL FORM",
      "c MEEM WITH KHAH WITH YEH FINAL FORMc LAM WITH JEEM WITH MEEM INITIAL FORM",
      "c KAF WITH MEEM WITH MEEM FINAL FORMc LAM WITH JEEM WITH MEEM FINAL FORM",
      "c NOON WITH JEEM WITH HAH FINAL FORMc JEEM WITH HAH WITH YEH FINAL FORM",
      "c HAH WITH JEEM WITH YEH FINAL FORMc MEEM WITH JEEM WITH YEH FINAL FORM",
      "c FEH WITH MEEM WITH YEH FINAL FORMc BEH WITH HAH WITH YEH FINAL FORM",
      "c KAF WITH MEEM WITH MEEM INITIAL FORMc AIN WITH JEEM WITH MEEM INITIAL FORM",
      "c SAD WITH MEEM WITH MEEM INITIAL FORMc SEEN WITH KHAH WITH YEH FINAL FORM",
      "c NOON WITH JEEM WITH YEH FINAL FORM"]),
   (0xFDCF, ["aARABIC LIGATURE SALAAMUHU ALAYNAA"]),
   (0xFDF0, ["aARABIC LIGATURE SALLA USED AS KORANIC STOP SIGN ISOLATED FORM",
      "c QALA USED AS KORANIC STOP SIGN ISOLATED FORMc ALLAH ISOLATED FORMc AKBAR ISOLATED FORM",
      "c MOHAMMAD ISOLATED FORMc SALAM ISOLATED FORMc RASOUL ISOLATED FORM",
      "c ALAYHE ISOLATED FORMc WASALLAM ISOLATED FORMc SALLA ISOLATED FORM",
      "c SALLALLAHOU ALAYHE WASALLAMc JALLAJALALOUHOUaRIAL SIGN",
      "aARABIC LIGATURE BISMILLAH AR-RAHMAN AR-RAHEEMc SUBHAANAHU WA TAAALAAc AZZA WA JALL",
      "aVARIATION SELECTOR-1c-2c-3c-4c-5c-6c-7c-8c-9c-10c-11c-12c-13c-14c-15c-16",
      "aPRESENTATION FORM FOR VERTICAL COMMAe IDEOGRAPHIC COMMAf FULL STOPe COLONe SEMICOLON",
      "e EXCLAMATION MARKe QUESTION MARKe LEFT WHITE LENTICULAR BRACKET",
      "e RIGHT WHITE LENTICULAR BRAKCETe HORIZONTAL ELLIPSIS"]),
   (0xFE20, ["aCOMBINING LIGATURE LEFT HALFc RIGHT HALFb DOUBLE TILDE LEFT HALFd RIGHT HALF",
      "b MACRON LEFT HALFc RIGHT HALFb CONJOINING MACRONb LIGATURE LEFT HALF BELOW",
      "c RIGHT HALF BELOWb TILDE LEFT HALF BELOWc RIGHT HALF BELOWb MACRON LEFT HALF BELOW",
      "c RIGHT HALF BELOWb CONJOINING MACRON BELOWb CYRILLIC TITLO LEFT HALFd RIGHT HALF",
      "aPRESENTATION FORM FOR VERTICAL TWO DOT LEADERe EM DASHe EN DASHe LOW LINE",
      "e WAVY LOW LINEe LEFT PARENTHESISe RIGHT PARENTHESISe LEFT CURLY BRACKET",
      "e RIGHT CURLY BRACKETe LEFT TORTOISE SHELL BRACKETe RIGHT TORTOISE SHELL BRACKET",
      "e LEFT BLACK LENTICULAR BRACKETe RIGHT BLACK LENTICULAR BRACKET",
      "e LEFT DOUBLE ANGLE BRACKETe RIGHT DOUBLE ANGLE BRACKETe LEFT ANGLE BRACKET",
      "e RIGHT ANGLE BRACKETe LEFT CORNER BRACKETe RIGHT CORNER BRACKET",
      "e LEFT WHITE CORNER BRACKETe RIGHT WHITE CORNER BRACKETaSESAME DOTaWHITE SESAME DOT",
      "aPRESENTATION FORM FOR VERTICAL LEFT SQUARE BRACKETe RIGHT SQUARE BRACKET",
      "aDASHED OVERLINEaCENTRELINE OVERLINEaWAVY OVERLINEaDOUBLE WAVY OVERLINEaDASHED LOW LINE",
      "aCENTRELINE LOW LINEaWAVY LOW LINEaSMALL COMMAb IDEOGRAPHIC COMMAb FULL STOP"]),
   (0xFE54, ["aSMALL SEMICOLONb COLONb QUESTION MARKb EXCLAMATION MARKb EM DASH",
      "b LEFT PARENTHESISb RIGHT PARENTHESISb LEFT CURLY BRACKETb RIGHT CURLY BRACKET",
      "b LEFT TORTOISE SHELL BRACKETb RIGHT TORTOISE SHELL BRACKETb NUMBER SIGNb AMPERSAND",
      "b ASTERISKb PLUS SIGNb HYPHEN-MINUSb LESS-THAN SIGNb GREATER-THAN SIGNb EQUALS SIGN"]),
   (0xFE68, ["aSMALL REVERSE SOLIDUSb DOLLAR SIGNb PERCENT SIGNb COMMERCIAL AT"]),
   (0xFE70, ["aARABIC FATHATAN ISOLATED FORMb TATWEEL WITH FATHATAN ABOVE",
      "b DAMMATAN ISOLATED FORMb TAIL FRAGMENTb KASRATAN ISOLATED FORM"]),
   (0xFE76, ["aARABIC FATHA ISOLATED FORMc MEDIAL FORMb DAMMA ISOLATED FORMc MEDIAL FORM",
      "b KASRA ISOLATED FORMc MEDIAL FORMb SHADDA ISOLATED FORMc MEDIAL FORM",
      "b SUKUN ISOLATED FORMc MEDIAL FORMb LETTER HAMZA ISOLATED FORM",
      "c ALEF WITH MADDA ABOVE ISOLATED FORMg FINAL FORMe HAMZA ABOVE ISOLATED FORMg FINAL FORM",
      "c WAW WITH HAMZA ABOVE ISOLATED FORMg FINAL FORMc ALEF WITH HAMZA BELOW ISOLATED FORM",
      "g FINAL FORMc YEH WITH HAMZA ABOVE ISOLATED FORMg FINAL FORMg INITIAL FORMg MEDIAL FORM",
      "c ALEF ISOLATED FORMd FINAL FORMc BEH ISOLATED FORMd FINAL FORMd INITIAL FORM",
      "d MEDIAL FORMc TEH MARBUTA ISOLATED FORMe FINAL FORMd ISOLATED FORMd FINAL FORM",
      "d INITIAL FORMd MEDIAL FORMc THEH ISOLATED FORMd FINAL FORMd INITIAL FORMd MEDIAL FORM",
      "c JEEM ISOLATED FORMd FINAL FORMd INITIAL FORMd MEDIAL FORMc HAH ISOLATED FORM",
      "d FINAL FORMd INITIAL FORMd MEDIAL FORMc KHAH ISOLATED FORMd FINAL FORMd INITIAL FORM",
      "d MEDIAL FORMc DAL ISOLATED FORMd FINAL FORMc THAL ISOLATED FORMd FINAL FORM",
      "c REH ISOLATED FORMd FINAL FORMc ZAIN ISOLATED FORMd FINAL FORMc SEEN ISOLATED FORM",
      "d FINAL FORMd INITIAL FORMd MEDIAL FORMc SHEEN ISOLATED FORMd FINAL FORMd INITIAL FORM",
      "d MEDIAL FORMc SAD ISOLATED FORMd FINAL FORMd INITIAL FORMd MEDIAL FORM",
      "c DAD ISOLATED FORMd FINAL FORMd INITIAL FORMd MEDIAL FORMc TAH ISOLATED FORM",
      "d FINAL FORMd INITIAL FORMd MEDIAL FORMc ZAH ISOLATED FORMd FINAL FORMd INITIAL FORM",
      "d MEDIAL FORMc AIN ISOLATED FORMd FINAL FORMd INITIAL FORMd MEDIAL FORM",
      "c GHAIN ISOLATED FORMd FINAL FORMd INITIAL FORMd MEDIAL FORMc FEH ISOLATED FORM",
      "d FINAL FORMd INITIAL FORMd MEDIAL FORMc QAF ISOLATED FORMd FINAL FORMd INITIAL FORM",
      "d MEDIAL FORMc KAF ISOLATED FORMd FINAL FORMd INITIAL FORMd MEDIAL FORM",
      "c LAM ISOLATED FORMd FINAL FORMd INITIAL FORMd MEDIAL FORMc MEEM ISOLATED FORM",
      "d FINAL FORMd INITIAL FORMd MEDIAL FORMc NOON ISOLATED FORMd FINAL FORMd INITIAL FORM",
      "d MEDIAL FORMc HEH ISOLATED FORMd FINAL FORMd INITIAL FORMd MEDIAL FORM",
      "c WAW ISOLATED FORMd FINAL FORMc ALEF MAKSURA ISOLATED FORMe FINAL FORM",
      "c YEH ISOLATED FORMd FINAL FORMd INITIAL FORMd MEDIAL FORM",
      "b LIGATURE LAM WITH ALEF WITH MADDA ABOVE ISOLATED FORMi FINAL FORM",
      "g HAMZA ABOVE ISOLATED FORMi FINAL FORMh BELOW ISOLATED FORMi FINAL FORMf ISOLATED FORM",
      "f FINAL FORM"]),
   (0xFEFF, ["aZERO WIDTH NO-BREAK SPACE"]),
   (0xFF01, ["aFULLWIDTH EXCLAMATION MARKb QUOTATION MARKb NUMBER SIGNb DOLLAR SIGN",
      "b PERCENT SIGNb AMPERSANDb APOSTROPHEb LEFT PARENTHESISb RIGHT PARENTHESISb ASTERISK",
      "b PLUS SIGNb COMMAb HYPHEN-MINUSb FULL STOPb SOLIDUSb DIGIT ZEROc ONEc TWOc THREEc FOUR",
      "c FIVEc SIXc SEVENc EIGHTc NINEb COLONb SEMICOLONb LESS-THAN SIGNb EQUALS SIGN",
      "b GREATER-THAN SIGNb QUESTION MARKb COMMERCIAL ATb LATIN CAPITAL LETTER Ae Be Ce De Ee F",
      "e Ge He Ie Je Ke Le Me Ne Oe Pe Qe Re Se Te Ue Ve We Xe Ye Zb LEFT SQUARE BRACKET",
      "b REVERSE SOLIDUSb RIGHT SQUARE BRACKETb CIRCUMFLEX ACCENTb LOW LINEb GRAVE ACCENT",
      "b LATIN SMALL LETTER Ae Be Ce De Ee Fe Ge He Ie Je Ke Le Me Ne Oe Pe Qe Re Se Te Ue Ve W",
      "e Xe Ye Zb LEFT CURLY BRACKETb VERTICAL LINEb RIGHT CURLY BRACKETb TILDE",
      "b LEFT WHITE PARENTHESISb RIGHT WHITE PARENTHESISaHALFWIDTH IDEOGRAPHIC FULL STOP",
      "b LEFT CORNER BRACKETb RIGHT CORNER BRACKETb IDEOGRAPHIC COMMAb KATAKANA MIDDLE DOT",
      "c LETTER WOd SMALL Ae Ie Ue Ee Oe YAe YUe YOe TUc-HIRAGANA PROLONGED SOUND MARK",
      "c LETTER Ad Id Ud Ed Od KAd KId KUd KEd KOd SAd SId SUd SEd SOd TAd TId TUd TEd TOd NA",
      "d NId NUd NEd NOd HAd HId HUd HEd HOd MAd MId MUd MEd MOd YAd YUd YOd RAd RId RUd REd RO",
      "d WAd Nc VOICED SOUND MARKc SEMI-VOICED SOUND MARKb HANGUL FILLERc LETTER KIYEOK",
      "d SSANGKIYEOKd KIYEOK-SIOSd NIEUNe-CIEUCe-HIEUHd TIKEUTd SSANGTIKEUTd RIEULe-KIYEOK",
      "e-MIEUMe-PIEUPe-SIOSe-THIEUTHe-PHIEUPHe-HIEUHd MIEUMd PIEUPd SSANGPIEUPd PIEUP-SIOS",
      "d SIOSd SSANGSIOSd IEUNGd CIEUCd SSANGCIEUCd CHIEUCHd KHIEUKHd THIEUTHd PHIEUPHd HIEUH"]),
   (0xFFC2, ["aHALFWIDTH HANGUL LETTER Ad AEd YAd YAEd EOd E"]),
   (0xFFCA, ["aHALFWIDTH HANGUL LETTER YEOd YEd Od WAd WAEd OE"]),
   (0xFFD2, ["aHALFWIDTH HANGUL LETTER YOd Ud WEOd WEd WId YU"]),
   (0xFFDA, ["aHALFWIDTH HANGUL LETTER EUd YId I"]),
   (0xFFE0, ["aFULLWIDTH CENT SIGNb POUND SIGNb NOT SIGNb MACRONb BROKEN BARb YEN SIGN",
      "b WON SIGN"]),
   (0xFFE8, ["aHALFWIDTH FORMS LIGHT VERTICALb LEFTWARDS ARROWb UPWARDS ARROWb RIGHTWARDS ARROW",
      "b DOWNWARDS ARROWb BLACK SQUAREb WHITE CIRCLE"]),
   (0xFFF9, ["aINTERLINEAR ANNOTATION ANCHORc SEPARATORc TERMINATOR",
      "aOBJECT REPLACEMENT CHARACTERaREPLACEMENT CHARACTER"])]

end PromptTree.Text
