/-!
# Names: aliases

Further names of characters: of control characters, which have no other, abbreviations, and corrections of
names that are misspelled.
-/

namespace BpfCompiler.Text.Name

def aliases : String := "
  =0aNULL=0d=1aSTART_OF_HEADING=1bOH=2bTART_OF_TEXT=2cX=3aEND_OF_TEXT=3bTX=4bND_OF_TRANSMISSION=4b
  OT=5bNQUIRY=5d=6aACKNOWLEDGE=6d=7bLERT=7aBEL=8bACKSPACE=8bS=9aCHARACTER_TABULATION=9aHORIZONTAL_
  TABULATION=9bT=9aTAB=AaLINE_FEED=AaNEW_LINE=AaEND_OF_LINE=AaLF=AaNL=AaEOL=BaLINE_TABULATION=BaVE
  RTICAL_TABULATION=BbT=CaFORM_FEED=CbF=DaCARRIAGE_RETURN=DbR=EaSHIFT_OUT=EaLOCKING-SHIFT_ONE=EaSO
  =FbHIFT_IN=FaLOCKING-SHIFT_ZERO=FaSI=10aDATA_LINK_ESCAPE=10bLE=11bEVICE_CONTROL_ONE=11bC1=12bEVI
  CE_CONTROL_TWO=12bC2=13bEVICE_CONTROL_THREE=13bC3=14bEVICE_CONTROL_FOUR=14bC4=15aNEGATIVE_ACKNOW
  LEDGE=15bAK=16aSYNCHRONOUS_IDLE=16d=17aEND_OF_TRANSMISSION_BLOCK=17bTB=18aCANCEL=18d=19aEND_OF_M
  EDIUM=19bOM=1AaSUBSTITUTE=1Ad=1BaESCAPE=1Bd=1CaINFORMATION_SEPARATOR_FOUR=1CaFILE_SEPARATOR=1CbS
  =1DaINFORMATION_SEPARATOR_THREE=1DaGROUP_SEPARATOR=1DbS=1EaINFORMATION_SEPARATOR_TWO=1EaRECORD_S
  EPARATOR=1EbS=1FaINFORMATION_SEPARATOR_ONE=1FaUNIT_SEPARATOR=1FbS=20aSP=7FaDELETE=7Fd=80aPADDING
  _CHARACTER=80d=81aHIGH_OCTET_PRESET=81bOP=82aBREAK_PERMITTED_HERE=82bPH=83aNO_BREAK_HERE=83bBH=8
  4aINDEX=84d=85aNEXT_LINE=85cL=86aSTART_OF_SELECTED_AREA=86bSA=87aEND_OF_SELECTED_AREA=87bSA=88aC
  HARACTER_TABULATION_SET=88aHORIZONTAL_TABULATION_SET=88bTS=89aCHARACTER_TABULATION@JUSTIFICATION
  =89aHORIZONTAL_TABULATION@JUSTIFICATION=89bTJ=8AaLINE_TABULATION_SET=8AaVERTICAL_TABULATION_SET=
  8AbTS=8BaPARTIAL_LINE_FORWARD=8BnDOWN=8BbLD=8CbARTIAL_LINE_BACKWARD=8CnUP=8CbLU=8DaREVERSE_LINE_
  FEED=8DiINDEX=8DbI=8EaSINGLE_SHIFT_TWO=8Eg-SHIFT-2=8EbS2=8FbINGLE_SHIFT_THREE=8Fg-SHIFT-3=8FbS3=
  90aDEVICE_CONTROL_STRING=90bCS=91aPRIVATE_USE_ONE=91l-1=91bU1=92bRIVATE_USE_TWO=92l-2=92bU2=93aS
  ET_TRANSMIT_STATE=93bTS=94aCANCEL_CHARACTER=94bCH=95aMESSAGE_WAITING=95bW=96aSTART_OF_GUARDED_AR
  EA=96jPROTECTED_AREA=96bPA=97aEND_OF_GUARDED_AREA=97hPROTECTED_AREA=97bPA=98aSTART_OF_STRING=98b
  OS=99bINGLE_GRAPHIC_CHARACTER_INTRODUCER=99bGC=9AbINGLE_CHARACTER_INTRODUCER=9AbCI=9BaCONTROL_SE
  QUENCE_INTRODUCER=9BbSI=9CaSTRING_TERMINATOR=9Cc=9DaOPERATING_SYSTEM_COMMAND=9DbSC=9EaPRIVACY_ME
  SSAGE=9EbM=9FaAPPLICATION_PROGRAM_COMMAND=9FcC=A0aNBSP=ADaSHY=1A2aLATIN_(:GHA=1A3g):GHA=34FaCGJ=
  61CaALM=709aSYRIAC_SUBLINEAR_COLON_SKEWED_LEFT=CDEaKANNADA:LLLA=E9DaLAO:FO_FON=E9FpAY=EA3lRO=EA5
  lLO=FD0aTIBETAN_MARK_BKA-_SHOG_GI_MGO_RGYAN=11ECaHANGUL_JONGSEONG_YESIEUNG-KIYEOK=11ED!SSANGKIYE
  OK=11EErSSANGYESIEUNG=11EFrYESIEUNG-KHIEUKH=180BaFVS1=180Cd2=180Dd3=180EaMVS=180FaFVS4=200BaZWSP
  =200CcNJ=200DcJ=200EaLRM=200FaRLM=202AaLRE=202BaRLE=202CaPDF=202DaLRO=202EaRLO=202FaNNBSP=205FaM
  MSP=2060aWJ=2066aLRI=2067aRLI=2068aFSI=2069aPDI=2118aWEIERSTRASS_ELLIPTIC_FUNCTION=2448aMICR_ON_
  US_SYMBOL=2449fDASH_SYMBOL=2B7AaLEFTWARDS_TRIANGLE-HEADED[@DOUBLE_VERTICAL_STROKE=2B7CaRIGHTWARD
  S_TRIANGLE-HEADED[@DOUBLE_VERTICAL_STROKE=A015aYI_SYLLABLE_ITERATION_MARK=AA6EaMYANMAR:KHAMTI_LL
  A=FE00aVS1=FE01c2=FE02c3=FE03c4=FE04c5=FE05c6=FE06c7=FE07c8=FE08c9=FE09c10=FE0Ad1=FE0Bd2=FE0Cd3=
  FE0Dd4=FE0Ed5=FE0Fd6=FE18aPRESENTATION]_FOR_VERTICAL_RIGHT_WHITE_LENTICULAR_BRACKET=FEFFaBYTE_OR
  DER_MARK=FEFFbOM=FEFFaZWNBSP=122D4aCUNEIFORM_SIGN_NU11_TENU=122D5uOVER_NU11_BUR_OVER_BUR=16E56aM
  EDEFAIDRIN_(:H=16E57$NG=16E76m):H=16E77zNG=1B001aHENTAIGANA:E-1=1D0C5aBYZANTINE_MUSICAL_SYMBOL_F
  THORA_SKLIRON_CHROMA_VASIS=E0100aVS17=E0101d8=E0102d9=E0103c20=E0104d1=E0105d2=E0106d3=E0107d4=E
  0108d5=E0109d6=E010Ad7=E010Bd8=E010Cd9=E010Dc30=E010Ed1=E010Fd2=E0110d3=E0111d4=E0112d5=E0113d6=
  E0114d7=E0115d8=E0116d9=E0117c40=E0118d1=E0119d2=E011Ad3=E011Bd4=E011Cd5=E011Dd6=E011Ed7=E011Fd8
  =E0120d9=E0121c50=E0122d1=E0123d2=E0124d3=E0125d4=E0126d5=E0127d6=E0128d7=E0129d8=E012Ad9=E012Bc
  60=E012Cd1=E012Dd2=E012Ed3=E012Fd4=E0130d5=E0131d6=E0132d7=E0133d8=E0134d9=E0135c70=E0136d1=E013
  7d2=E0138d3=E0139d4=E013Ad5=E013Bd6=E013Cd7=E013Dd8=E013Ed9=E013Fc80=E0140d1=E0141d2=E0142d3=E01
  43d4=E0144d5=E0145d6=E0146d7=E0147d8=E0148d9=E0149c90=E014Ad1=E014Bd2=E014Cd3=E014Dd4=E014Ed5=E0
  14Fd6=E0150d7=E0151d8=E0152d9=E0153c100=E0154e1=E0155e2=E0156e3=E0157e4=E0158e5=E0159e6=E015Ae7=
  E015Be8=E015Ce9=E015Dd10=E015Ee1=E015Fe2=E0160e3=E0161e4=E0162e5=E0163e6=E0164e7=E0165e8=E0166e9
  =E0167d20=E0168e1=E0169e2=E016Ae3=E016Be4=E016Ce5=E016De6=E016Ee7=E016Fe8=E0170e9=E0171d30=E0172
  e1=E0173e2=E0174e3=E0175e4=E0176e5=E0177e6=E0178e7=E0179e8=E017Ae9=E017Bd40=E017Ce1=E017De2=E017
  Ee3=E017Fe4=E0180e5=E0181e6=E0182e7=E0183e8=E0184e9=E0185d50=E0186e1=E0187e2=E0188e3=E0189e4=E01
  8Ae5=E018Be6=E018Ce7=E018De8=E018Ee9=E018Fd60=E0190e1=E0191e2=E0192e3=E0193e4=E0194e5=E0195e6=E0
  196e7=E0197e8=E0198e9=E0199d70=E019Ae1=E019Be2=E019Ce3=E019De4=E019Ee5=E019Fe6=E01A0e7=E01A1e8=E
  01A2e9=E01A3d80=E01A4e1=E01A5e2=E01A6e3=E01A7e4=E01A8e5=E01A9e6=E01AAe7=E01ABe8=E01ACe9=E01ADd90
  =E01AEe1=E01AFe2=E01B0e3=E01B1e4=E01B2e5=E01B3e6=E01B4e7=E01B5e8=E01B6e9=E01B7c200=E01B8e1=E01B9
  e2=E01BAe3=E01BBe4=E01BCe5=E01BDe6=E01BEe7=E01BFe8=E01C0e9=E01C1d10=E01C2e1=E01C3e2=E01C4e3=E01C
  5e4=E01C6e5=E01C7e6=E01C8e7=E01C9e8=E01CAe9=E01CBd20=E01CCe1=E01CDe2=E01CEe3=E01CFe4=E01D0e5=E01
  D1e6=E01D2e7=E01D3e8=E01D4e9=E01D5d30=E01D6e1=E01D7e2=E01D8e3=E01D9e4=E01DAe5=E01DBe6=E01DCe7=E0
  1DDe8=E01DEe9=E01DFd40=E01E0e1=E01E1e2=E01E2e3=E01E3e4=E01E4e5=E01E5e6=E01E6e7=E01E7e8=E01E8e9=E
  01E9d50=E01EAe1=E01EBe2=E01ECe3=E01EDe4=E01EEe5=E01EFe6"

end BpfCompiler.Text.Name
