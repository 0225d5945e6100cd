/-!
# The names of characters

The names and aliases that Unicode 14 gives to single characters, those made by rule apart, in ascending order. Items are
parted by commas and line ends; each opens with a digit of base 36 that tells how many letters it takes over from the
name before.
-/
namespace GlobalSurvey.Text.CharName

/-- The names, each by what it adds to the one before. -/
def namesText : String :=
  "0ABACUS,1C CURRENT,2CORDION,4UNT OF,2K,3NOWLEDGE,2TIVATE ARABIC FORM SHAPING,9SYMMETRIC SWAPPING
2UTE ACCENT,7NGLE,1DDRESSED TO THE SUBJECT,2HESIVE BANDAGE,2I SHAKTI,2LAM ALIF LENGTHENER
6CAPITAL LETTER ALIF,lBA,mHE,lCHI,lDAALI,mHA,lE,lFA,lGA,mBE,lHA,lI,lJIIM,lKAF,mHA,mPO,lLAAM,lMIIM
lNHA,mUN,mYA,lO,lPE,lQAAF,lRA,lSHA,mINNYIIYHE,lTU,lU,lVA,lWAW,lYA,mHE,lZAL,7ONSONANT MODIFIER
6DIGIT EIGHT,cFIVE,dOUR,cNINE,cONE,cSEVEN,dIX,cTHREE,dWO,cZERO,6GEMINATE CONSONANT MODIFIER
dION MARK,6HAMZA,6INITIAL EXCLAMATION MARK,eQUESTION MARK,6NASALIZATION MARK,7UKTA
6SMALL LETTER ALIF,jBA,kHE,jCHI,jDAALI,kHA,jE,jFA,jGA,kBE,jHA,jI,jJIIM,jKAF,kHA,kPO,jLAAM,jMIIM,jNHA
kUN,kYA,jO,jPE,jQAAF,jRA,jSHA,kINNYIIYHE,jTU,jU,jVA,jWAW,jYA,kHE,jZAL,6VOWEL LENGTHENER,2METOS
3ISSION TICKETS,2ULT,1EGEAN CHECK MARK,7DRY MEASURE FIRST SUBUNIT,7LIQUID MEASURE FIRST SUBUNIT
7MEASURE SECOND SUBUNIT,fTHIRD SUBUNIT,7NUMBER EIGHT,j HUNDRED,kTHOUSAND,jY,k THOUSAND,eFIFTY
j THOUSAND,gVE,i HUNDRED,jTHOUSAND,fORTY,j THOUSAND,gUR,i HUNDRED,jTHOUSAND,eNINE,i HUNDRED
jTHOUSAND,iTY,k THOUSAND,eONE,h HUNDRED,iTHOUSAND,eSEVEN,j HUNDRED,kTHOUSAND,jTY,l THOUSAND,fIX
h HUNDRED,iTHOUSAND,hTY,j THOUSAND,eTEN,h THOUSAND,fHIRTY,k THOUSAND,gREE,j HUNDRED,kTHOUSAND,fWENTY
k THOUSAND,gO,h HUNDRED,iTHOUSAND,7WEIGHT BASE UNIT,eFIRST SUBUNIT,fOURTH SUBUNIT,eSECOND SUBUNIT
eTHIRD SUBUNIT,8ORD SEPARATOR DOT,mLINE,2RIAL TRAMWAY,1FGHANI SIGN,1HOM CONSONANT SIGN MEDIAL LA
sIGATING RA,rRA,5DIGIT EIGHT,bFIVE,cOUR,bNINE,bONE,bSEVEN,cIX,bTHREE,cWO,bZERO,5LETTER A
dLTERNATE BA,mGA,mTA,cBA,dHA,cCA,dHA,cDA,dDA,eHA,dHA,cGA,dHA,cHA,cJA,dHA,cKA,dHA,cLA,dLA,cMA,cNA,dGA
dNA,dYA,cPA,dHA,cRA,cSA,cTA,dHA,dTA,eHA,5NUMBER TEN,dWENTY,5SIGN KILLER,aRULAI,aSECTION
bMALL SECTION,6YMBOL VI,5VOWEL SIGN A,hA,hI,hM,hW,gE,gI,hI,gO,gU,hU,1IRPLANE,8 ARRIVING,9DEPARTURE
1KTIESELSKAB,1LARM CLOCK,2CHEMICAL SYMBOL FOR AIR,nLEMBIC,oKALI,s-2,oUM,nMALGAM,nNTIMONY ORE
nQUA REGIA,w-2,rVITAE,w-2,qFORTIS,nRSENIC,nSHES,nURIPIGMENT,mBATH OF MARY,uVAPOURS,nISMUTH ORE
nLACK SULFUR,nORAX,r-2,s3,nRICK,mCADUCEUS,oLX,oPUT MORTUUM,nINNABAR,nOPPER ANTIMONIATE,tORE
nROCUS OF COPPER,zPER-2,wIRON,oUCIBLE,u-2,v3,v4,v5,mDAY-NIGHT,nISSOLVE,u-2,pTILL,mEARTH,mFIRE,mGOLD
nUM,mHALF DRAM,rOUNCE,nORSE DUNG,oUR,mIRON ORE,u-2,q-COPPER ORE,mLEAD ORE,nODESTONE,mMARCASITE
nERCURY SUBLIMATE,zMATE-2,zMATE-3,nONTH,mNIGHT,oTRE,mOIL,mPHILOSOPHERS SULFUR,nOT ASHES,oWDER
sED BRICK,nRECIPITATE,nURIFY,oTREFACTION,mQUICK LIME,pNTESSENCE,mREALGAR,t-2,oGULUS,t OF ANTIMONY
zTIMONY-2,xIRON,t-2,u3,u4,oTORT,nOCK SALT,v-2,mSAL-AMMONIAC,pT,q OF ANTIMONY,uCOPPER ANTIMONIATE
nCEPTER OF JOVE,nILVER,nOAP,nPIRIT,nTARRED TRIDENT,oRATUM SUPER STRATUM,z STRATUM-2
nUBLIMATE OF ANTIMONY,zCOPPER,zSALT OF ANTIMONY,zSALT OF COPPER,uION,oLFUR,mTARTAR,s-2,nIN ORE
pCTURE,nRIDENT,nUTTY,mURINE,mVERDIGRIS,nINEGAR,t OF ANTIMONY,t-2,u3,oTRIOL,t-2,mWATER,oX,2EF SYMBOL
3MBIC,3RT,2IEN MONSTER,2L AROUND-PROFILE,4EQUAL TO,2M,3OST EQUAL OR EQUAL TO,dTO
f WITH CIRCUMFLEX ACCENT,2TERNATE ONE-WAY LEFT WAY TRAFFIC,8IVE KEY SYMBOL,1MALGAMATION OR COPRODUCT
2BULANCE,2ERICAN FOOTBALL,2PERSAND,3HORA,1NATOLIAN HIEROGLYPH A001,o2,o3,o4,o5,o6,o7,o8,o9,n10,pA,o1
o2,o3,o4,o5,o6,o7,o8,o9,n20,o1,o2,o3,o4,o5,o6,pA,o7,o8,o9,n30,o1,o2,o3,o4,o5,o6,o7,o8,o9,pA,n40,o1
pA,o2,o3,o4,o5,pA,o6,pA,pB,o7,o8,o9,n50,o1,o2,o3,o4,o5,o6,o7,o8,o9,n60,o1,o2,o3,o4,o5,o6,pA,pB,pC,o7
o8,o9,n70,o1,o2,o3,o4,o5,o6,o7,o8,o9,n80,o1,o2,o3,o4,o5,o6,o7,o8,o9,n90,o1,o2,o3,o4,o5,o6,o7,pA,o8
pA,o9,m100,pA,o1,pA,o2,pA,o3,o4,pA,pB,pC,o5,pA,pB,o6,o7,pA,pB,pC,o8,o9,n10,pA,pB,o1,o2,o3,o4,o5,pA
o6,o7,o8,o9,n20,o1,o2,o3,o4,o5,pA,o6,o7,o8,o9,n30,o1,o2,o3,o4,o5,pA,o6,o7,o8,o9,n40,o1,o2,o3,o4,o5
o6,o7,o8,o9,n50,o1,o2,o3,o4,o5,o6,o7,o8,o9,n60,o1,o2,o3,o4,o5,o6,o7,o8,o9,n70,o1,o2,o3,o4,o5,o6,o7
o8,o9,n80,o1,o2,o3,o4,o5,o6,o7,o8,o9,n90,o1,o2,o3,o4,o5,o6,o7,o8,o9,m200,o1,o2,pA,pB,o3,o4,o5,o6,o7
pA,o8,o9,pA,n10,o1,o2,o3,o4,o5,pA,o6,pA,o7,o8,o9,n20,o1,o2,o3,o4,o5,o6,o7,pA,o8,o9,n30,o1,o2,o3,o4
o5,o6,o7,o8,o9,n40,o1,o2,o3,o4,o5,o6,o7,o8,o9,n50,o1,o2,o3,o4,o5,o6,o7,o8,o9,n60,o1,o2,o3,o4,o5,o6
o7,pA,o8,o9,n70,o1,o2,o3,o4,o5,o6,o7,o8,o9,n80,o1,o2,o3,o4,o5,o6,o7,o8,o9,pA,n90,o1,o2,o3,o4,pA,o5
o6,o7,o8,o9,pA,m300,o1,o2,o3,o4,o5,o6,o7,o8,o9,pA,n10,o1,o2,o3,o4,o5,o6,o7,o8,o9,n20,o1,o2,o3,o4,o5
o6,o7,o8,o9,pA,n30,o1,o2A,pB,pC,o3,o4,o5,o6,pA,pB,pC,o7,o8,o9,n40,o1,o2,o3,o4,o5,o6,o7,o8,o9,n50,o1
o2,o3,o4,o5,o6,o7,o8,o9,pA,n60,o1,o2,o3,o4,pA,o5,o6,o7,o8,pA,o9,n70,o1,pA,o2,o3,o4,o5,o6,o7,o8,o9
n80,o1,pA,o2,o3 RA OR RI,pA,o4,o5,o6,pA,o7,o8,o9,n90,o1,o2,o3 EIGHT,o4,o5,o6,o7,o8,o9,m400,o1,o2,o3
o4,o5,o6,o7,o8,o9,n10 BEGIN LOGOGRAM MARK,pA END LOGOGRAM MARK,o1,o2,o3,o4,o5,o6,o7,o8,o9,n20,o1,o2
o3,o4,o5,o6,o7,o8,o9,n30,o1,o2,o3,o4,o5,o6,o7,o8,o9,n40,o1,o2,o3,o4,o5,o6,o7,o8,o9,n50,pA,o1,o2,o3
o4,o5,o6,o7,pA,o8,o9,n60,o1,o2,o3,o4,o5,o6,o7,o8,o9,n70,o1,o2,o3,o4,o5,o6,o7,o8,o9,n80,o1,o2,o3,o4
o5,o6,o7,o8,o9,n90,o1,o2,o3,o4,o5,o6,o7,m501,o2,o3,o4,o5,o6,o7,o8,o9,n10,o1,o2,o3,o4,o5,o6,o7,o8,o9
n20,o1,o2,o3,o4,o5,o6,o7,o8,o9,n30,5MICAL HEART,2CHOR,2D WITH DOT,2GER SYMBOL,3LE,5 WITH S INSIDE
bUNDERBAR,3RY FACE,3STROM SIGN,3UISHED FACE,2KH,2T,3ENNA WITH BARS,3ICLOCKWISE CLOSED CIRCLE ARROW
fONTOUR INTEGRAL,eDOWNWARDS AND UPWARDS OPEN CIRCLE ARROWS,eGAPPED CIRCLE ARROW,eINTEGRATION
eOPEN CIRCLE ARROW,eTOP SEMICIRCLE ARROW,fRIANGLE-HEADED BOTTOM U-SHAPED ARROW,uLEFT U-SHAPED ARROW
uOPEN CIRCLE ARROW,uRIGHT U-SHAPED ARROW,uTOP U-SHAPED ARROW,1PC,2L FUNCTIONAL SYMBOL ALPHA
r UNDERBAR,mBACKSLASH BAR,mCIRCLE BACKSLASH,tDIAERESIS,tJOT,tSTAR,vILE,tUNDERBAR,nOMMA BAR
mDEL DIAERESIS,qSTILE,qTILDE,pTA STILE,sUNDERBAR,nIAMOND UNDERBAR,nOWN CARET TILDE,rSHOE STILE
rTACK JOT,wUNDERBAR,qWARDS VANE,mEPSILON UNDERBAR,mGREATER-THAN DIAERESIS,mI-BEAM,nOTA,q UNDERBAR
mJOT DIAERESIS,qUNDERBAR,mLEFT SHOE STILE,qWARDS VANE,mOMEGA,r UNDERBAR,mQUAD,q BACKSLASH,rCIRCLE
sOLON,rDEL,uTA,sIAMOND,tVIDE,sOWN CARET,vWARDS ARROW,rEQUAL,rGREATER-THAN,rJOT,rLEFTWARDS ARROW
tSS-THAN,rNOT EQUAL,rQUESTION,rRIGHTWARDS ARROW,rSLASH,rUP CARET,tWARDS ARROW,oOTE QUAD,sUNDERBAR
mRHO,nIGHTWARDS VANE,mSEMICOLON UNDERBAR,nLASH BAR,nQUISH QUAD,nTAR DIAERESIS,oILE TILDE
mTILDE DIAERESIS,mUP CARET TILDE,pSHOE JOT,pTACK DIAERESIS,uJOT,uOVERBAR,oWARDS VANE,mZILDE,2OLLON
3STROPHE,2PLICATION PROGRAM COMMAND,3ROACHES THE LIMIT,5XIMATELY BUT NOT ACTUALLY EQUAL TO
eEQUAL OR EQUAL TO,kTO,m OR THE IMAGE OF,1QUARIUS,1RABIC BASELINE ROUND DOT,7COMMA,8URLY DAMMA,iTAN
dFATHA,iTAN,dKASRA,iTAN,7DAMMA,c ISOLATED FORM,dMEDIAL FORM,dWITH DOT,cTAN,f ISOLATED FORM
9TE SEPARATOR,8ECIMAL SEPARATOR,8ISPUTED END OF AYAH,8OUBLE RIGHT ARROWHEAD ABOVE,z WITH DOT
dD MADDA,7EMPTY CENTRE HIGH STOP,kLOW STOP,8ND OF AYAH,eTEXT MARK,7FATHA,c ISOLATED FORM
dMEDIAL FORM,dWITH DOT ABOVE,iRING,iTWO DOTS,cTAN,f ISOLATED FORM,8IVE POINTED STAR,8OOTNOTE MARKER
8ULL STOP,7HALF MADDA OVER MADDA,9MZA ABOVE,dBELOW,7INVERTED DAMMA,7KASRA,c ISOLATED FORM
dMEDIAL FORM,dWITH DOT BELOW,cTAN,f ISOLATED FORM,7LARGE CIRCLE BELOW,dROUND DOT ABOVE,nBELOW
nINSIDE CIRCLE BELOW,8EFT ARROWHEAD ABOVE,mBELOW,9TTER AE,fFRICAN FEH,mNOON,mQAF
p WITH THREE DOTS ABOVE,fIN,h FINAL FORM,iINITIAL FORM,jSOLATED FORM,iMEDIAL FORM
iWITH THREE DOTS ABOVE,yBELOW,yPOINTING DOWNWARDS ABOVE,oWO DOTS ABOVE,wVERTICALLY ABOVE,fLEF
i FINAL FORM,jISOLATED FORM,jMAKSURA,q FINAL FORM,rISOLATED FORM,jWASLA,o FINAL FORM,pISOLATED FORM
kITH ATTACHED BOTTOM RIGHT KASRA,zTTOM RIGHT KASRA AND DOT ABOVE,zTTOM RIGHT KASRA AND LEFT RING
xFATHA,xKASRA,xLEFT HAMZA,zFT ROUND DOT,xRIGHT HAMZA,zGHT ROUND DOT,yOUND DOT ABOVE,zUND DOT BELOW
xTOP RIGHT FATHA,zP RIGHT FATHA AND DOT ABOVE,zP RIGHT FATHA AND LEFT RING,oDOT ABOVE
oEXTENDED ARABIC-INDIC DIGIT THREE ABOVE,zABIC-INDIC DIGIT TWO ABOVE,oHAMZA ABOVE,z FINAL FORM
z ISOLATED FORM,uBELOW,z FINAL FORM,z ISOLATED FORM,oLEFT MIDDLE STROKE,oMADDA ABOVE,z FINAL FORM
z ISOLATED FORM,oRIGHT MIDDLE STROKE,zE STROKE AND DOT ABOVE,zE STROKE AND LEFT RING
oWAVY HAMZA ABOVE,zBELOW,eBEEH,i FINAL FORM,jINITIAL FORM,kSOLATED FORM,jMEDIAL FORM,gH,h FINAL FORM
iINITIAL FORM,jSOLATED FORM,iMEDIAL FORM,iWITH DOT BELOW AND THREE DOTS ABOVE,nHAMZA ABOVE
nINVERTED SMALL V BELOW,nSMALL MEEM ABOVE,tV,u BELOW,nTHREE DOTS HORIZONTALLY BELOW
yPOINTING UPWARDS BELOW,zOINTING UPWARDS BELOW AND TWO DOTS ABOVE,oWO DOTS BELOW AND DOT ABOVE,hEH
j FINAL FORM,kINITIAL FORM,lSOLATED FORM,kMEDIAL FORM,eDAD,h FINAL FORM,iINITIAL FORM,jSOLATED FORM
iMEDIAL FORM,iWITH DOT BELOW,gHAL,j FINAL FORM,kISOLATED FORM,gL,h FINAL FORM,iISOLATED FORM
iWITH DOT BELOW,w AND SMALL TAH,nFOUR DOTS ABOVE,nINVERTED SMALL V BELOW,wV,nRING
nTHREE DOTS ABOVE DOWNWARDS,yBELOW,oWO DOTS VERTICALLY BELOW AND SMALL TAH,fDAHAL,k FINAL FORM
lISOLATED FORM,hL,i FINAL FORM,jISOLATED FORM,fOTLESS BEH,mFEH,mQAF,fUL,h FINAL FORM,iISOLATED FORM
fYEH,i FINAL FORM,jINITIAL FORM,kSOLATED FORM,jMEDIAL FORM,eE,f FINAL FORM,gINITIAL FORM
hSOLATED FORM,gMEDIAL FORM,eFARSI YEH,n FINAL FORM,oINITIAL FORM,pSOLATED FORM,oMEDIAL FORM
oWITH EXTENDED ARABIC-INDIC DIGIT FOUR BELOW,zED ARABIC-INDIC DIGIT THREE ABOVE
zED ARABIC-INDIC DIGIT TWO ABOVE,tINVERTED V,tTHREE DOTS ABOVE,uWO DOTS ABOVE,fEH,h FINAL FORM
iINITIAL FORM,jSOLATED FORM,iMEDIAL FORM,iWITH DOT BELOW,w AND THREE DOTS ABOVE,rMOVED BELOW
nTHREE DOTS BELOW,yPOINTING UPWARDS BELOW,oWO DOTS BELOW,eGAF,h FINAL FORM,iINITIAL FORM
jSOLATED FORM,iMEDIAL FORM,iWITH INVERTED STROKE,nRING,nTHREE DOTS ABOVE,oWO DOTS BELOW,fHAIN
j FINAL FORM,kINITIAL FORM,lSOLATED FORM,kMEDIAL FORM,kWITH DOT BELOW,pTHREE DOTS ABOVE,fRAF,fUEH
i FINAL FORM,jINITIAL FORM,kSOLATED FORM,jMEDIAL FORM,eHAH,h FINAL FORM,iINITIAL FORM,jSOLATED FORM
iMEDIAL FORM,iWITH EXTENDED ARABIC-INDIC DIGIT FOUR BELOW,nHAMZA ABOVE,nINVERTED SMALL V BELOW
nSMALL ARABIC LETTER TAH ABOVE,z LETTER TAH AND TWO DOTS,z LETTER TAH BELOW,nTHREE DOTS ABOVE
yPOINTING UPWARDS BELOW,oWO DOTS ABOVE,wVERTICAL ABOVE,gMZA,j ISOLATED FORM,fEH,h DOACHASHMEE
t FINAL FORM,uINITIAL FORM,vSOLATED FORM,uMEDIAL FORM,iFINAL FORM,iGOAL,m FINAL FORM,nINITIAL FORM
oSOLATED FORM,nMEDIAL FORM,nWITH HAMZA ABOVE,iINITIAL FORM,jSOLATED FORM,iMEDIAL FORM
iWITH INVERTED V,nYEH ABOVE,w FINAL FORM,xISOLATED FORM,fIGH HAMZA,o ALEF,pWAW,pYEH,eJEEM
i FINAL FORM,jINITIAL FORM,kSOLATED FORM,jMEDIAL FORM,jWITH THREE DOTS ABOVE,zBELOW,pWO DOTS ABOVE
gH,h FINAL FORM,iISOLATED FORM,eKAF,h FINAL FORM,iINITIAL FORM,jSOLATED FORM,iMEDIAL FORM
iWITH DOT ABOVE,rBELOW,nRING,nTHREE DOTS BELOW,oWO DOTS ABOVE,gSHMIRI YEH,fEHEH,j FINAL FORM
kINITIAL FORM,lSOLATED FORM,kMEDIAL FORM,kWITH DOT ABOVE,pSMALL V,pTHREE DOTS ABOVE,z BELOW
z POINTING UPWARDS BELOW,qWO DOTS ABOVE,yVERTICALLY BELOW,fHAH,i FINAL FORM,jINITIAL FORM
kSOLATED FORM,jMEDIAL FORM,fIRGHIZ OE,o FINAL FORM,pISOLATED FORM,mYU,o FINAL FORM,pISOLATED FORM
eLAM,h FINAL FORM,iINITIAL FORM,jSOLATED FORM,iMEDIAL FORM,iWITH BAR,nDOT ABOVE,pUBLE BAR
nSMALL ARABIC LETTER TAH ABOVE,tV,nTHREE DOTS ABOVE,yBELOW,fOW ALEF,eMARK,fEEM,i FINAL FORM
jINITIAL FORM,kSOLATED FORM,jMEDIAL FORM,jWITH DOT ABOVE,sBELOW,oTHREE DOTS ABOVE,eNG,g FINAL FORM
hINITIAL FORM,iSOLATED FORM,hMEDIAL FORM,gOEH,j FINAL FORM,kINITIAL FORM,lSOLATED FORM,kMEDIAL FORM
fOON,i FINAL FORM,jGHUNNA,p FINAL FORM,qISOLATED FORM,jINITIAL FORM,kSOLATED FORM,jMEDIAL FORM
jWITH DOT BELOW,oINVERTED SMALL V,oRING,oSMALL TAH,uV,oTHREE DOTS ABOVE,pWO DOTS BELOW,fYEH
i FINAL FORM,jINITIAL FORM,kSOLATED FORM,jMEDIAL FORM,eOE,g FINAL FORM,hISOLATED FORM,ePEH
h FINAL FORM,iINITIAL FORM,jSOLATED FORM,iMEDIAL FORM,iWITH SMALL MEEM ABOVE,tV,hEH,j FINAL FORM
kINITIAL FORM,lSOLATED FORM,kMEDIAL FORM,eQAF,h FINAL FORM,iINITIAL FORM,jSOLATED FORM,iMEDIAL FORM
iWITH DOT ABOVE,rBELOW,w AND NO DOTS ABOVE,nTHREE DOTS ABOVE,eREH,h FINAL FORM,iISOLATED FORM
iWITH DOT BELOW,w AND DOT ABOVE,nFOUR DOTS ABOVE,nHAMZA ABOVE,nINVERTED V,nLOOP,nRING
nSMALL ARABIC LETTER TAH AND TWO DOTS,tNOON ABOVE,tV,u BELOW,oTROKE,nTWO DOTS ABOVE
wVERTICALLY ABOVE,fNOON,j FINAL FORM,kINITIAL FORM,lSOLATED FORM,kMEDIAL FORM,fOHINGYA YEH,fREH
i FINAL FORM,jISOLATED FORM,eSAD,h FINAL FORM,iINITIAL FORM,jSOLATED FORM,iMEDIAL FORM
iWITH THREE DOTS ABOVE,yBELOW,oWO DOTS BELOW,fEEN,i FINAL FORM,jINITIAL FORM,kSOLATED FORM
jMEDIAL FORM,jWITH DOT BELOW AND DOT ABOVE,oEXTENDED ARABIC-INDIC DIGIT FOUR ABOVE,oFOUR DOTS ABOVE
oINVERTED V,oSMALL ARABIC LETTER TAH AND TWO DOTS,oTHREE DOTS BELOW,zBELOW AND THREE DOTS ABOVE
pWO DOTS VERTICALLY ABOVE,fHEEN,j FINAL FORM,kINITIAL FORM,lSOLATED FORM,kMEDIAL FORM
kWITH DOT BELOW,fTRAIGHT WAW,fUPERSCRIPT ALEF,fWASH KAF,eTAH,h FINAL FORM,iINITIAL FORM
jSOLATED FORM,iMEDIAL FORM,iWITH DOT BELOW,nTHREE DOTS ABOVE,yBELOW,oWO DOTS ABOVE,fCHEH
j FINAL FORM,kINITIAL FORM,lSOLATED FORM,kMEDIAL FORM,kWITH DOT ABOVE,pSMALL V,jEH,l FINAL FORM
mINITIAL FORM,nSOLATED FORM,mMEDIAL FORM,fEH,h FINAL FORM,iINITIAL FORM,jSOLATED FORM,iMARBUTA
p FINAL FORM,qGOAL,qISOLATED FORM,jEDIAL FORM,iWITH RING,nSMALL TEH ABOVE,tV
nTHREE DOTS ABOVE DOWNWARDS,hEH,j FINAL FORM,kINITIAL FORM,lSOLATED FORM,kMEDIAL FORM,fHAL
i FINAL FORM,jISOLATED FORM,gEH,i FINAL FORM,jINITIAL FORM,kSOLATED FORM,jMEDIAL FORM,gIN YEH,fTEH
i FINAL FORM,jINITIAL FORM,kSOLATED FORM,jMEDIAL FORM,jWITH SMALL V,iEH,k FINAL FORM,lINITIAL FORM
mSOLATED FORM,lMEDIAL FORM,eU,f FINAL FORM,gISOLATED FORM,gWITH HAMZA ABOVE,w ISOLATED FORM
fIGHUR KAZAKH KIRGHIZ ALEF MAKSURA INITIAL FORM,z ALEF MAKSURA MEDIAL FORM,eVE,g FINAL FORM
hISOLATED FORM,gH,h FINAL FORM,iINITIAL FORM,jSOLATED FORM,iMEDIAL FORM,eWAW,h FINAL FORM
iISOLATED FORM,iWITH DOT ABOVE,rWITHIN,nEXTENDED ARABIC-INDIC DIGIT THREE ABOVE
zBIC-INDIC DIGIT TWO ABOVE,nHAMZA ABOVE,y FINAL FORM,zISOLATED FORM,nRING,nTWO DOTS ABOVE,eYEH
h BARREE,o FINAL FORM,pISOLATED FORM,pWITH EXTENDED ARABIC-INDIC DIGIT THREE ABOVE
zDED ARABIC-INDIC DIGIT TWO ABOVE,uHAMZA ABOVE,z ABOVE FINAL FORM,z ABOVE ISOLATED FORM,iFINAL FORM
iINITIAL FORM,jSOLATED FORM,iMEDIAL FORM,iWITH HAMZA ABOVE,y FINAL FORM,zINITIAL FORM,zISOLATED FORM
zMEDIAL FORM,nSMALL V,nTAIL,oHREE DOTS BELOW,oWO DOTS BELOW AND DOT ABOVE,zOW AND HAMZA ABOVE
zOW AND SMALL NOON ABOVE,fU,g FINAL FORM,hISOLATED FORM,eZAH,h FINAL FORM,iINITIAL FORM
jSOLATED FORM,iMEDIAL FORM,gIN,i FINAL FORM,jISOLATED FORM,jWITH INVERTED V ABOVE
8IGATURE AIN WITH ALEF MAKSURA FINAL FORM,zRA ISOLATED FORM,pJEEM INITIAL FORM,vSOLATED FORM
uWITH MEEM FINAL FORM,zMEEM INITIAL FORM,pMEEM INITIAL FORM,vSOLATED FORM
uWITH ALEF MAKSURA FINAL FORM,zMEEM FINAL FORM,zMEEM INITIAL FORM,zYEH FINAL FORM,pYEH FINAL FORM
tISOLATED FORM,hKBAR ISOLATED FORM,hLAYHAA AS-SALAAM,lE ISOLATED FORM,lI AS-SALAAM,vTU WAS-SALAAM
mM AS-SALAAM,nAA AS-SALAAM,iEF MAKSURA WITH SUPERSCRIPT ALEF FINAL FORM
zUPERSCRIPT ALEF ISOLATED FORM,lWITH FATHATAN FINAL FORM,zISOLATED FORM,iLAH ISOLATED FORM
hZZA WA JALL,gBEH WITH ALEF MAKSURA FINAL FORM,zRA ISOLATED FORM,pHAH INITIAL FORM,uSOLATED FORM
tWITH YEH FINAL FORM,qEH INITIAL FORM,tMEDIAL FORM,pJEEM INITIAL FORM,vSOLATED FORM
pKHAH INITIAL FORM,vSOLATED FORM,uWITH YEH FINAL FORM,pMEEM FINAL FORM,uINITIAL FORM,vSOLATED FORM
uMEDIAL FORM,pNOON FINAL FORM,pREH FINAL FORM,pYEH FINAL FORM,tISOLATED FORM,pZAIN FINAL FORM
hISMILLAH AR-RAHMAN AR-RAHEEM,gDAD WITH ALEF MAKSURA FINAL FORM,zRA ISOLATED FORM,pHAH INITIAL FORM
uSOLATED FORM,tWITH ALEF MAKSURA FINAL FORM,yYEH FINAL FORM,pJEEM INITIAL FORM,vSOLATED FORM
pKHAH INITIAL FORM,vSOLATED FORM,uWITH MEEM FINAL FORM,zMEEM INITIAL FORM,pMEEM INITIAL FORM
vSOLATED FORM,pREH FINAL FORM,tISOLATED FORM,pYEH FINAL FORM,tISOLATED FORM
gFEH WITH ALEF MAKSURA FINAL FORM,zRA ISOLATED FORM,pHAH INITIAL FORM,uSOLATED FORM
pJEEM INITIAL FORM,vSOLATED FORM,pKHAH INITIAL FORM,vSOLATED FORM,uWITH MEEM FINAL FORM
zMEEM INITIAL FORM,pMEEM INITIAL FORM,vSOLATED FORM,uWITH YEH FINAL FORM,pYEH FINAL FORM
tISOLATED FORM,gGHAIN WITH ALEF MAKSURA FINAL FORM,zSURA ISOLATED FORM,rJEEM INITIAL FORM
xSOLATED FORM,rMEEM INITIAL FORM,xSOLATED FORM,wWITH ALEF MAKSURA FINAL FORM,zH MEEM FINAL FORM
zH YEH FINAL FORM,rYEH FINAL FORM,vISOLATED FORM,gHAH WITH ALEF MAKSURA FINAL FORM,zRA ISOLATED FORM
pJEEM INITIAL FORM,vSOLATED FORM,uWITH YEH FINAL FORM,pMEEM INITIAL FORM,vSOLATED FORM
uWITH ALEF MAKSURA FINAL FORM,zYEH FINAL FORM,pYEH FINAL FORM,tISOLATED FORM
hEH WITH ALEF MAKSURA ISOLATED FORM,pJEEM INITIAL FORM,vSOLATED FORM,pMEEM INITIAL FORM
vSOLATED FORM,uWITH JEEM INITIAL FORM,zMEEM INITIAL FORM,pSUPERSCRIPT ALEF INITIAL FORM
pYEH ISOLATED FORM,gJALLAJALALOUHOU,hEEM WITH ALEF MAKSURA FINAL FORM,zURA ISOLATED FORM
qHAH INITIAL FORM,vSOLATED FORM,uWITH ALEF MAKSURA FINAL FORM,zYEH FINAL FORM,qMEEM INITIAL FORM
wSOLATED FORM,vWITH ALEF MAKSURA FINAL FORM,z HAH FINAL FORM,z HAH INITIAL FORM,z YEH FINAL FORM
qYEH FINAL FORM,uISOLATED FORM,gKAF WITH ALEF FINAL FORM,uISOLATED FORM,uMAKSURA FINAL FORM
zRA ISOLATED FORM,pHAH INITIAL FORM,uSOLATED FORM,pJEEM INITIAL FORM,vSOLATED FORM
pKHAH INITIAL FORM,vSOLATED FORM,pLAM FINAL FORM,tINITIAL FORM,uSOLATED FORM,tMEDIAL FORM
pMEEM FINAL FORM,uINITIAL FORM,vSOLATED FORM,uMEDIAL FORM,uWITH MEEM FINAL FORM,zMEEM INITIAL FORM
zYEH FINAL FORM,pYEH FINAL FORM,tISOLATED FORM,hHAH WITH ALEF MAKSURA FINAL FORM,zURA ISOLATED FORM
qHAH ISOLATED FORM,qJEEM INITIAL FORM,wSOLATED FORM,qMEEM INITIAL FORM,wSOLATED FORM,qYEH FINAL FORM
uISOLATED FORM,gLAM WITH ALEF FINAL FORM,uISOLATED FORM,uMAKSURA FINAL FORM,zRA ISOLATED FORM
uWITH HAMZA ABOVE FINAL FORM,zHAMZA ABOVE ISOLATED FORM,zHAMZA BELOW FINAL FORM
zHAMZA BELOW ISOLATED FORM,zMADDA ABOVE FINAL FORM,zMADDA ABOVE ISOLATED FORM,pHAH INITIAL FORM
uSOLATED FORM,tWITH ALEF MAKSURA FINAL FORM,yMEEM FINAL FORM,zEEM INITIAL FORM,yYEH FINAL FORM
qEH INITIAL FORM,pJEEM INITIAL FORM,vSOLATED FORM,uWITH JEEM FINAL FORM,zJEEM INITIAL FORM
zMEEM FINAL FORM,zMEEM INITIAL FORM,zYEH FINAL FORM,pKHAH INITIAL FORM,vSOLATED FORM
uWITH MEEM FINAL FORM,zMEEM INITIAL FORM,pMEEM FINAL FORM,uINITIAL FORM,vSOLATED FORM,uMEDIAL FORM
uWITH HAH FINAL FORM,zHAH INITIAL FORM,zYEH FINAL FORM,pYEH FINAL FORM,tISOLATED FORM
gMEEM WITH ALEF FINAL FORM,vMAKSURA ISOLATED FORM,qHAH INITIAL FORM,vSOLATED FORM
uWITH JEEM INITIAL FORM,zMEEM INITIAL FORM,zYEH FINAL FORM,qJEEM INITIAL FORM,wSOLATED FORM
vWITH HAH INITIAL FORM,z KHAH INITIAL FORM,z MEEM INITIAL FORM,z YEH FINAL FORM,qKHAH INITIAL FORM
wSOLATED FORM,vWITH JEEM INITIAL FORM,z MEEM INITIAL FORM,z YEH FINAL FORM,qMEEM FINAL FORM
vINITIAL FORM,wSOLATED FORM,vWITH YEH FINAL FORM,qYEH ISOLATED FORM,hOHAMMAD ISOLATED FORM
gNOON WITH ALEF MAKSURA FINAL FORM,zURA ISOLATED FORM,qHAH INITIAL FORM,vSOLATED FORM
uWITH ALEF MAKSURA FINAL FORM,zMEEM INITIAL FORM,zYEH FINAL FORM,rEH INITIAL FORM,uMEDIAL FORM
qJEEM INITIAL FORM,wSOLATED FORM,vWITH ALEF MAKSURA FINAL FORM,z HAH FINAL FORM,z HAH INITIAL FORM
z MEEM FINAL FORM,z MEEM INITIAL FORM,z YEH FINAL FORM,qKHAH INITIAL FORM,wSOLATED FORM
qMEEM FINAL FORM,vINITIAL FORM,wSOLATED FORM,vMEDIAL FORM,vWITH ALEF MAKSURA FINAL FORM
z YEH FINAL FORM,qNOON FINAL FORM,qREH FINAL FORM,qYEH FINAL FORM,uISOLATED FORM,qZAIN FINAL FORM
gQAF WITH ALEF MAKSURA FINAL FORM,zRA ISOLATED FORM,pHAH INITIAL FORM,uSOLATED FORM
pMEEM INITIAL FORM,vSOLATED FORM,uWITH HAH FINAL FORM,zHAH INITIAL FORM,zMEEM FINAL FORM
zYEH FINAL FORM,pYEH FINAL FORM,tISOLATED FORM,iLA USED AS KORANIC STOP SIGN ISOLATED FORM
hUDDISA SIRRAH,gRADI ALLAAHU ANH,wAA,wUM,yAA,xNNA,iHIMAHU ALLAAH,oM ALLAAH,iSOUL ISOLATED FORM
hEH WITH SUPERSCRIPT ALEF ISOLATED FORM,gSAD WITH ALEF MAKSURA FINAL FORM,zRA ISOLATED FORM
pHAH INITIAL FORM,uSOLATED FORM,tWITH HAH FINAL FORM,zAH INITIAL FORM,yYEH FINAL FORM
pKHAH INITIAL FORM,pMEEM INITIAL FORM,vSOLATED FORM,uWITH MEEM FINAL FORM,zMEEM INITIAL FORM
pREH FINAL FORM,tISOLATED FORM,pYEH FINAL FORM,tISOLATED FORM,iLAAMUHU ALAYNAA,kM ISOLATED FORM
jLA ISOLATED FORM,mUSED AS KORANIC STOP SIGN ISOLATED FORM,lLLAAHU ALAYHI WA-AALIH
oHOU ALAYHE WASALLAM,pU ALAYHI WAAALIHEE WA-SALLAM,hEEN WITH ALEF MAKSURA FINAL FORM
zURA ISOLATED FORM,qHAH INITIAL FORM,vSOLATED FORM,uMEDIAL FORM,uWITH JEEM INITIAL FORM
rEH INITIAL FORM,uMEDIAL FORM,qJEEM INITIAL FORM,wSOLATED FORM,vMEDIAL FORM
vWITH ALEF MAKSURA FINAL FORM,z HAH INITIAL FORM,qKHAH INITIAL FORM,wSOLATED FORM,vMEDIAL FORM
vWITH ALEF MAKSURA FINAL FORM,z YEH FINAL FORM,qMEEM INITIAL FORM,wSOLATED FORM,vMEDIAL FORM
vWITH HAH FINAL FORM,z HAH INITIAL FORM,z JEEM INITIAL FORM,z MEEM FINAL FORM,z MEEM INITIAL FORM
qREH FINAL FORM,uISOLATED FORM,qYEH FINAL FORM,uISOLATED FORM,hHADDA WITH DAMMA ISOLATED FORM
yMEDIAL FORM,xTAN ISOLATED FORM,sFATHA ISOLATED FORM,yMEDIAL FORM,sKASRA ISOLATED FORM,yMEDIAL FORM
xTAN ISOLATED FORM,sSUPERSCRIPT ALEF ISOLATED FORM,iEEN WITH ALEF MAKSURA FINAL FORM
zSURA ISOLATED FORM,rHAH FINAL FORM,vINITIAL FORM,wSOLATED FORM,vMEDIAL FORM,vWITH MEEM FINAL FORM
z MEEM INITIAL FORM,z YEH FINAL FORM,sEH INITIAL FORM,vMEDIAL FORM,rJEEM FINAL FORM,wINITIAL FORM
xSOLATED FORM,wMEDIAL FORM,wWITH YEH FINAL FORM,rKHAH FINAL FORM,wINITIAL FORM,xSOLATED FORM
wMEDIAL FORM,rMEEM FINAL FORM,wINITIAL FORM,xSOLATED FORM,wMEDIAL FORM,wWITH KHAH FINAL FORM
zH KHAH INITIAL FORM,zH MEEM FINAL FORM,zH MEEM INITIAL FORM,rREH FINAL FORM,vISOLATED FORM
rYEH FINAL FORM,vISOLATED FORM,hUBHAANAHU WA TAAALAA,gTABAARAKA WA-TAAALAA
iH WITH ALEF MAKSURA FINAL FORM,zRA ISOLATED FORM,pHAH INITIAL FORM,uSOLATED FORM,pMEEM INITIAL FORM
vSOLATED FORM,uMEDIAL FORM,uWITH HAH FINAL FORM,zHAH INITIAL FORM,zMEEM INITIAL FORM,zYEH FINAL FORM
pYEH FINAL FORM,tISOLATED FORM,hEH WITH ALEF MAKSURA FINAL FORM,zRA ISOLATED FORM,pHAH INITIAL FORM
uSOLATED FORM,tWITH JEEM FINAL FORM,zEEM INITIAL FORM,yMEEM INITIAL FORM,qEH INITIAL FORM
tMEDIAL FORM,pJEEM INITIAL FORM,vSOLATED FORM,uWITH ALEF MAKSURA FINAL FORM,zMEEM INITIAL FORM
zYEH FINAL FORM,pKHAH INITIAL FORM,vSOLATED FORM,uWITH ALEF MAKSURA FINAL FORM,zMEEM INITIAL FORM
zYEH FINAL FORM,pMEEM FINAL FORM,uINITIAL FORM,vSOLATED FORM,uMEDIAL FORM
uWITH ALEF MAKSURA FINAL FORM,zHAH INITIAL FORM,zJEEM INITIAL FORM,zKHAH INITIAL FORM
zYEH FINAL FORM,pNOON FINAL FORM,pREH FINAL FORM,pYEH FINAL FORM,tISOLATED FORM,pZAIN FINAL FORM
hHAL WITH SUPERSCRIPT ALEF ISOLATED FORM,iEH WITH ALEF MAKSURA FINAL FORM,zURA ISOLATED FORM
qHEH MEDIAL FORM,qJEEM ISOLATED FORM,qMEEM FINAL FORM,vINITIAL FORM,wSOLATED FORM,vMEDIAL FORM
qNOON FINAL FORM,qREH FINAL FORM,qYEH FINAL FORM,uISOLATED FORM,qZAIN FINAL FORM
gUIGHUR KIRGHIZ YEH WITH HAMZA ABOVE WITH ALEF MAKSURA FINAL FORM
zWITH HAMZA ABOVE WITH ALEF MAKSURA INITIAL FORM,zWITH HAMZA ABOVE WITH ALEF MAKSURA ISOLATED FORM
gWASALLAM ISOLATED FORM,gYEH WITH ALEF MAKSURA FINAL FORM,zRA ISOLATED FORM,pHAH INITIAL FORM
uSOLATED FORM,tWITH YEH FINAL FORM,rMZA ABOVE WITH AE FINAL FORM,zE WITH AE ISOLATED FORM
zE WITH ALEF FINAL FORM,zE WITH ALEF ISOLATED FORM,zE WITH ALEF MAKSURA FINAL FORM
zE WITH ALEF MAKSURA ISOLATED FORM,zE WITH E FINAL FORM,zE WITH E INITIAL FORM
zE WITH E ISOLATED FORM,zE WITH HAH INITIAL FORM,zE WITH HAH ISOLATED FORM,zE WITH HEH INITIAL FORM
zE WITH HEH MEDIAL FORM,zE WITH JEEM INITIAL FORM,zE WITH JEEM ISOLATED FORM
zE WITH KHAH INITIAL FORM,zE WITH MEEM FINAL FORM,zE WITH MEEM INITIAL FORM
zE WITH MEEM ISOLATED FORM,zE WITH MEEM MEDIAL FORM,zE WITH NOON FINAL FORM,zE WITH OE FINAL FORM
zE WITH OE ISOLATED FORM,zE WITH REH FINAL FORM,zE WITH U FINAL FORM,zE WITH U ISOLATED FORM
zE WITH WAW FINAL FORM,zE WITH WAW ISOLATED FORM,zE WITH YEH FINAL FORM,zE WITH YEH ISOLATED FORM
zE WITH YU FINAL FORM,zE WITH YU ISOLATED FORM,zE WITH ZAIN FINAL FORM,qEH INITIAL FORM,tMEDIAL FORM
pJEEM INITIAL FORM,vSOLATED FORM,uWITH YEH FINAL FORM,pKHAH INITIAL FORM,vSOLATED FORM
pMEEM FINAL FORM,uINITIAL FORM,vSOLATED FORM,uMEDIAL FORM,uWITH MEEM FINAL FORM,zMEEM INITIAL FORM
zYEH FINAL FORM,pNOON FINAL FORM,pREH FINAL FORM,pYEH FINAL FORM,tISOLATED FORM,pZAIN FINAL FORM
gZAH WITH MEEM INITIAL FORM,vSOLATED FORM,uMEDIAL FORM,7MADDA WAAJIB,cH ABOVE,9RK NOON GHUNNA
cSIDEWAYS NOON GHUNNA,9THEMATICAL AIN,lLEF,kBEH,kDAD,mL,lOTLESS BEH,sFEH,sNOON,sQAF,mUBLE-STRUCK AIN
yBEH,yDAD,zAL,yFEH,yGHAIN,yHAH,yJEEM,yKHAH,yLAM,yMEEM,yNOON,yQAF,yREH,ySAD,zEEN,zHEEN,yTAH,zEH,zHAL
zHEH,yWAW,yYEH,yZAH,zAIN,kFEH,kGHAIN,kHAH,kINITIAL AIN,sBEH,sDAD,sFEH,sGHAIN,sHAH,tEH,sJEEM,sKAF
tHAH,sLAM,sMEEM,sNOON,sQAF,sSAD,tEEN,tHEEN,sTEH,tHEH,sYEH,kJEEM,kKAF,lHAH,kLAM,lOOPED AIN,sLEF,rBEH
rDAD,tL,rFEH,rGHAIN,rHAH,sEH,rJEEM,rKHAH,rLAM,rMEEM,rNOON,rQAF,rREH,rSAD,sEEN,sHEEN,rTAH,sEH,sHAL
tEH,rWAW,rYEH,rZAH,tIN,kMEEM,kNOON,kOPERATOR HAH WITH DAL,tMEEM WITH HAH WITH TATWEEL,kQAF,kREH,kSAD
lEEN,lHEEN,lTRETCHED AIN,uBEH,uDAD,vOTLESS BEH,zSS FEH,uFEH,uGHAIN,uHAH,vEH,uJEEM,uKAF,vHAH,uMEEM
uNOON,uQAF,uSAD,vEEN,vHEEN,uTAH,vEH,vHEH,uYEH,uZAH,kTAH,mILED AIN,rDAD,sOTLESS NOON,zQAF,rGHAIN,rHAH
rJEEM,rKHAH,rLAM,rNOON,rQAF,rSAD,sEEN,sHEEN,rYEH,lEH,lHAL,mEH,kWAW,kYEH,kZAH,mIN,7NUMBER MARK ABOVE
eSIGN,7OPEN DAMMATAN,cFATHATAN,cKASRATAN,7PERCENT SIGN,8IASTRE MARK ABOVE,8LACE OF SAJDAH
8OETIC VERSE SIGN,9UND MARK ABOVE,7QUESTION MARK,7RAISED ROUND DOT,9Y,8EVERSED DAMMA
8IGHT ARROWHEAD ABOVE,s WITH DOT,nBELOW,8OUNDED HIGH STOP WITH FILLED CENTRE,7SEMICOLON,8HADDA
d ISOLATED FORM,eMEDIAL FORM,8IGN ALAYHE ASSALLAM,cMISRA,cRADI ALLAHOU ANHU,eHMATULLAH ALAYHE,cSAFHA
eLLALLAHOU ALAYHE WASSALLAM,eMVAT,eNAH,dINDHI AMPERSAND,jPOSTPOSITION MEN,cTAKHALLUS,8MALL DAMMA
dFARSI YEH,fTHA,dHIGH AIN,iDOTLESS HEAD OF KHAH,iFARSI YEH,jOOTNOTE MARKER,iJEEM,iLAM ALEF
jIGATURE ALEF WITH LAM WITH YEH,rQAF WITH LAM WITH ALEF MAKSURA,rSAD WITH LAM WITH ALEF MAKSURA
iMADDA,jEEM INITIAL FORM,oSOLATED FORM,iNOON,m WITH KASRA,iQAF,iROUNDED ZERO,iSAD,jEEN,jIGN SAFHA
iTAH,jHREE DOTS,iUPRIGHT RECTANGULAR ZERO,iWAW,jORD AL-JUZ,oN-NISF,oR-RUB,oS-SAJDA,oTH-THALATHA,nQIF
nSAH,pKTA,nWAQFA,iYEH,l BARREE WITH TWO DOTS BELOW,iZAH,kIN,dKASRA,dLOW MEEM,hNOON WITH KASRA,hSEEN
hWAW,iORD IMAALA,nSHMAAM,mTASHEEL,dWAW,dYEH,8TART OF RUB EL HIZB,8UBSCRIPT ALEF,9KUN,c BELOW
dISOLATED FORM,dMEDIAL FORM,9PERSCRIPT ALEF MOKHASSAS,8YMBOL DOT ABOVE,iBELOW
gUBLE VERTICAL BAR BELOW,eFOUR DOTS ABOVE,oBELOW,eRING,eSMALL TAH ABOVE,oBELOW,eTHREE DOTS ABOVE
pBELOW,pPOINTING DOWNWARDS ABOVE,zOWNWARDS BELOW,fWO DOTS ABOVE,nBELOW,nVERTICALLY ABOVE,yBELOW
eWASLA ABOVE,7TAIL FRAGMENT,9TWEEL,e WITH FATHATAN ABOVE,kOVERSTRUCK HAMZA,vWAW,kTWO DOTS BELOW
8HOUSANDS SEPARATOR,8ONE LOOP ABOVE,hBELOW,cONE DOT ABOVE,kBELOW,cTWO DOTS ABOVE,lBELOW
8RIPLE DOT PUNCTUATION MARK,8URNED DAMMA BELOW,7VERTICAL TAIL,8OWEL SIGN DOT BELOW
iINVERTED SMALL V ABOVE,iSMALL V ABOVE,7WAVY HAMZA BELOW,7ZWARAKAY,6-INDIC CUBE ROOT,dDIGIT EIGHT
jFIVE,kOUR,jNINE,jONE,jSEVEN,kIX,jTHREE,kWO,jZERO,dFOURTH ROOT,dPER MILLE SIGN,hTEN THOUSAND SIGN,2C
2IES,2MENIAN ABBREVIATION MARK,aPOSTROPHE,9CAPITAL LETTER AYB,oBEN,oCA,pHA,qEH,pO,oDA,oECH,pH,pT
oFEH,oGHAD,pIM,oHO,oINI,oJA,pHEH,oKEH,qN,oLIWN,oMEN,oNOW,oOH,oPEH,pIWR,oRA,pEH,oSEH,pHA,oTIWN,pO
oVEW,pO,oXEH,oYI,qWN,oZA,pHE,aOMMA,9DRAM SIGN,9EMPHASIS MARK,aXCLAMATION MARK,9FULL STOP,9HYPHEN
9MODIFIER LETTER LEFT HALF RING,9QUESTION MARK,9SMALL LETTER AYB,mBEN,mCA,nHA,oEH,nO,mDA,mECH,nH,nT
mFEH,mGHAD,nIM,mHO,mINI,mJA,nHEH,mKEH,oN,mLIWN,mMEN,mNOW,mOH,mPEH,nIWR,mRA,nEH,mSEH,nHA,mTIWN,nO
nURNED AYB,mVEW,nO,mXEH,mYI,o WITH STROKE,oWN,mZA,nHE,gIGATURE ECH YIWN,oMEN ECH,sINI,sNOW,sXEH
oVEW NOW,2ROW POINTING DOWNWARDS THEN CURVING LEFTWARDS,zNG RIGHTWARDS
fRIGHTWARDS THEN CURVING DOWNWARDS,zING SOUTH WEST,zING UPWARDS,fUPWARDS THEN NORTH WEST
5HEAD-SHAPED POINTER,2TICULATED LORRY,4ST PALETTE,1SCENDING NODE,3IA SYMBOL,2SERTION,2TERISK
8 OPERATOR,7M,3ONISHED FACE,3RAEA,4ONOMICAL SYMBOL FOR URANUS,2YMPTOTICALLY EQUAL TO,1THLETIC SHOE
2OM SYMBOL,1UBERGINE,2STRAL SIGN,2TO RICKSHAW,4MATED TELLER MACHINE,5OBILE,1VESTAN ABBREVIATION MARK
8LETTER A,gA,hN,hO,gE,hE,gN,gO,fBE,gHE,fCE,fDE,gHE,fE,gE,fFE,fGE,gGE,gHE,fHE,gME,fI,gI,fJE,fKE,fLE
fME,fNE,gGE,hVE,hYE,gNE,gYE,fO,gO,fPE,fRE,fSE,gHE,hYE,gSHE,fTE,gHE,gTE,fU,gU,fVE,fXE,gVE,gYE,fYE,gYE
fZE,gHE,2OCADO,1XE,0BABY,4 ANGEL,5BOTTLE,5CHICK,5SYMBOL,2CK OF ENVELOPE,5WITH LEFTWARDS ARROW ABOVE
4-TILTED SHADOWED WHITE RIGHTWARDS ARROW,4SLANTED SOUTH ARROW WITH HOOKED TAIL,vRIZONTAL TAIL,5PACE
3ON,3TRIAN CAMEL,2DGER,3MINTON RACQUET AND SHUTTLECOCK,2GEL,3GAGE CLAIM,3UETTE BREAD
2LINESE ADEG ADEG,9CARIK PAMUNGKAH,hREREN,fSIKI,9DIGIT EIGHT,fFIVE,gOUR,fNINE,fONE,fSEVEN,gIX,fTHREE
gWO,fZERO,9LETTER AIKARA,hKARA,l TEDUNG,hRCHAIC JNYA,hSYURA SASAK,gBA,i KEMBANG,gCA,i LACA,gDA
i MADU,kURDA ALPAPRANA,pMAHAPRANA,gEF SASAK,hKARA,gGA,i GORA,gHA,gIKARA,l TEDUNG,gJA,i JERA,gKA
i MAHAPRANA,iF SASAK,hHOT SASAK,gLA,i LENGA,o TEDUNG,gMA,gNA,i RAMBAT,hGA,hYA,gOKARA,l TEDUNG,gPA
i KAPAL,gRA,i REPA,n TEDUNG,gSA,i SAGA,lPA,gTA,i LATIK,jMURDA MAHAPRANA,jTAWA,hZIR SASAK,gUKARA
l TEDUNG,gVE SASAK,gWA,gYA,gZAL SASAK,9MUSICAL SYMBOL COMBINING BENDE,yENDEP,yGONG,yJEGOGAN,yKEMPLI
zEMPLI WITH JEGOGAN,zEMPUL,zEMPUL WITH JEGOGAN,yTEGEH,oDAENG,qING,qNG,s GEDE,tSURANG,pENG,qUNG,pING
pONG,pUNG,oLEFT-HAND CLOSED PLAK,zLOSED PLUK,yOPEN PANG,zPEN PING,zPEN PUNG,oRIGHT-HAND CLOSED TAK
zCLOSED TUK,zOPEN DAG,zOPEN DUG,9PAMADA,f LANTANG,cENENG,bNTI,e LANTANG,9SIGN BISAH,eCECEK,eREREKAN
eSURANG,eULU CANDRA,iRICEM,9VOWEL SIGN LA LENGA,s TEDUNG,kPEPET,p TEDUNG,kRA REPA,r TEDUNG,kSUKU
o ILUT,kTALING,q REPA,v TEDUNG,rTEDUNG,lEDUNG,kULU,n SARI,9WINDU,3L OF YARN,4ET SHOES,4OON
7-SPOKED ASTERISK,5T BOLD SCRIPT X,9X,a WITH BALLOT,hOLD CHECK,lSCRIPT X,gCHECK,gLIGHT X,gSCRIPT X
gX,7SCRIPT X,7X,2MUM COLON,8MBINING MARK KOQNDON,lTUKWENTIS,9MA,6FULL STOP,6LETTER A,dEE,dFAAMAE,eEE
eOM,eU,dI,dKA,eEN,fT,fUX,eI,eO,fGHOM,fVUU,ePA,eU,eYEE,dLA,eEEEE,eI,eOQ,eU,dM,eA,eBAA,fEN,eEEEE,fN,eI
eO,eU,dNA,eDAA,eGA,fGA,fKWAEN,eI,eJAEM,fEE,fUAE,eSHA,eTEE,fUU,eU,fAE,eYI,dO,dPA,eEE,fUX,eHASE-A FIRI
lGBIEE FON,mHEUAEGHEUAE,rRAE,lKAFA,nQ,mET,nUKEUTNDA,mPOQ,mUOQ,lLAPAQ,mET KUT,mOMMAE,mU,nAEP,lMAEKEUP
oM,pBGBIEE,pKPEN,pVEUX,oNYI,oSI,nNSUAE,nP PIEET,mBANYI,oQ,mEUNJOMNDEUQ,mGBASA,mON NGGEUAET,nOMEUT
pPUQ,mVEUAENGAM,lNAA MFON,nQ,mDA LEERAEWA,oANGGEUAET,mEN,mGANGU,nGEN,nKUE MFON,qNZEUM,mIKA,mJAM
mKAARAE,nINDI,mSHA,oIEE,mTAP,p MFAA,qNTAA,nOQPEN,mYET,nI,oT MONGKEUAEQ,mZA MFON,nUN MEUT
lPA LEERAEWA,nAM,oRAE,nMSHAE,nSHAE,mET,mON MFON PIPAEMBA,zMGBIEE,pPA NJI PIPAEMBA,zAEMGBIEE,mUP,lROM
lSEUNYAM,mHINDA PA NJI,oRAE,nOQ NSHUT YUM,nUENSHUET,oM,mISA,mONJAM,nQ,nT,mUU,lTEUAEN,oTEUWEN
mITA MFON,mU MAEMBA,nAEP,lU YUQ NAE,mNKNOWN,lVEE,jB FEE,nUX,lGHEUGHEN,sUAEM,lKAM,mEUAEM,oPUQ,oYEUX
mIEEM,nQ,lLAANAE,nM NSHUT NYAM,mET,mOM NTEUM,lMA,n NJEUAENA,qUQA,mBA MAELEE,oARAE,nEURI,nIT MBAAKET
nUOQ,mEUQ,oT NGGEET,mFIYAQ,nON TEUAEQ,mONTIEEN,lNDU NJAA,mGGAAM,oEU MBU,oUOQ,r LARGE,nKINDI MVOP,nOM
mSEN,nHUET,mTIEE SHEUOQ,mYAEMAE,nI NTEUM,lPARUM,mEESHI,mIT,mUNGAAM,lSAKEUAE,mET TU,mHET NJAQ,oUAEQTU
mIEE,mUE,lTAAM,mU MAEMGBIEE,oNSIEE,lVEUM,lWUAET,lYAFU LEERAEWA,mEURAE,jC BUNG,lFUE,lGBAYI,mHAP,oRAE
lKAA,mEN FATIGUE,pLAW,nT,nUKAQ,oM,oSEUX,pHEUAEP,mPARAQ,mUOP NKAARAE,nT,lLAM,nP,mIQ,mU,lMA KEUAERI
oNSIEE,nEMBA,oSI,mBAA CABBAGE-TREE,qPICKET,oNYI,nEEKEET,oRAE,oUM,pX,nI,oRIEEN,oT,nUAEM,oE,mGBASAQ
mIEE,mUAE,lNANSANAQ,nQ,mDAM,oP,nEUAEREE,pT,nIDA,nOMBU,mGAQ,nGEN,oU,pAEN NYAM,pEET,pM,pON,nKAQ
oUE MAEMBA,nOM,mJAEM,oM,nEEEE,oUX,nUEQ,mSA,nEUAEN,nHAQ,nOM,nUN,oOT NGOM,mTAA,nEN,oUNGBA,nU MBIT
mYIR MKPARAQ MEUN,mZA,nEUM,lPEN,mIN,nRIEEN,lRU,lSETFON,nUX,mHIQ,nUEQ,mUAET,lTAASHAE,mET,nUTEUX
mITA YUE,oUAEP,lVEUAEPEN,oX,lWANGKUOQ,mUP,lYAA,mEUQ,mU MUOMAE,nM,nWOQ,jD FAA,mEUFEUAET,lGHAA,nEUAE
lKET,nUAETMEUN,oM,oOT MBUAE,oP,mU,nN,nOM,nQ,mWAET,mYEE,lLEEEE,nT,nUAEP,oM,mIEE,mOQ,mUM,lM,mAENJET
nLEERI,mBAA,p SEVEN,nUO,mEEEE,nUN,oT,mFEUAE,pT,nIEE,nO,oN,mGBEUN,oIEE,oOFUM,mONI,mU,mVOP,lNDAM,nEE
oUX,nON,mGGAAM,rAE,pP,oEUX,oUOM,oWAEN,nKAP,oEUAEQ,qRI,oIEE,oUN,oYEE,mI,mJAP,nEUAEM,pT,nI,oEE,nUEQ
mSHEE,oUT,nIEEP,qT,nUM,mTEE,oUM,nUU,mU,mYAM,nET,nI,nUE,lPAP,mEE,nUTAE,mIP,mUQ,nUT,lRAEM,mEN MUCH
pOLD,mII,lSAP,nQ,mEUAEQ,mHEE,oUAE,pX,nII,nOQ,nU,mOT,mUAE,nE,nU,lTAE,mEEEE,nUAEN,oN,oT,mI,mOQ,mU,nOT
lWAP,mUAEN,lYAEMMAE,mEN,mUOM,oP,nWOQ,jE A,lFA,nQ,mEE,mOM,mU CALL,oI,oREMEDY,nE,oT,lGBET,oUX,mHAAMAE
nET,oUAE,pN,pX,nOM,lI,lKET,nUAE,oX,mI,mO,mPEUX,mUET,nOP,nT,lLAAM,nP,nQ,mEUAEM,mOM,nON,oT,nQ,mU,lMA
nE,oM,nP,nQ,mBEE,oUM,mEN,mFEUQ,mGBA,oEN,mI,nEE,mON,mUAE,mVI,lNA,nE,mDAA MY HOUSE,qSOFTNESS,oP,nIAQ
oQ,nUN,mGA,nEUREUT,nGEEEE,pUAE,sT,oUAESHAE NYAM,pP,pRAE,nKA,pAMI,oEUAEM,qX,oUM,pP,nOP,oQ,nUAE,qT
mJAEMLI,nEE,p EPOCH,oUX,mKOM,mSHIEE,oUE,pOP,mTAP,nUM,mYI BETWEEN,pCLEAVER,mZAQ,nUQ,lO,lPA PEOPLE
pLURAL,nA,oM,mEEM,nUT,oX,mI,nEEQ,oT,mO,nON,mU,nAE,oQ,nE,nM,lRAE,nQ,mEUX,mIMGBA,lSAA,mEE,nT,mHEUAEQ
nIQ,nO,oQ,mOM,mUAEN,lTAA,oQ,nEN NTEUM,nM,nQ,mEN,nU,oAEQ,mOO,oN,nQ,mUAE,nM,oAE,lVEE,nUAE,mOM,lWEUX
mUE,nO,lYAP,mEUAE,qT,oM,oX,mIEE,nT,mOQ COVER,pSWIMMING,mUAEN,nEQ,nN,nQ,jF EE,lFOM,lKA,mEN,nT,mO,mPA
mU,mYEE,lLA,mI,mOQ,lM,mA,mBAA,nEN,mEEEE,mO,lNDAA,mGGA,nKWAEN,mI,mJAEM,nUAE,mSHA,mTEE,mU,nAE,mYI,lPEE
nUX,mUAE,lREE,nN,nUX,mIEE,nI,mU,lSAMBA,mEUX,mHII,nO,nU,mI,mUU,lTAA,nE,mET,lU,lVUEQ,lWA,mUE,lYA,mOQ
eI,eUAE,fE,dRAE,eEE,fN,fUX,eIEE,fI,eU,dSAMBA,eEUX,eHEUX,fII,fO,fU,eI,eUU,dTAA,fE,eEN,fT,eI,dU,dWA
eUE,dYA,eOQ,eUQ,6NJAEMLI,6QUESTION MARK,6SEMICOLON,2NANA,3JO,3K,4NOTE WITH DOLLAR SIGN,eEURO SIGN
ePOUND SIGN,eYEN SIGN,2R CHART,4OF SOAP,3BER POLE,2SEBALL,3KET,6BALL AND HOOP
3SA VAH COMBINING HIGH TONE,o-LOW TONE,kLOW TONE,n-MID TONE,kMID TONE,aFULL STOP,aLETTER A,hBA,hCE
hDHII,iO,hE,iE,iNNI,hFA,hGAH,iBU,hHWAH,hI,hJO,hKA,iPAH,hMBE,hO,iO,hPA,hSE,hTO,hU,iWU,hVU,hWA,jDDA
hYEIN,iIE,hZO,2T,3AK CONSONANT SIGN H,lNG,6LETTER A,dBA,dCA,dDA,dGA,dHA,dI,dJA,dKARO BA,dLA,dMA
fNDAILING HA,oNA,oSA,eBA,dNA,eDA,eGA,eORTHERN TA,eYA,dPA,fKPAK WA,dRA,dSA,eIMALUNGUN A,oGA,oHA,oLA
oMA,oPA,oRA,oSA,oWA,oYA,eOUTHERN TA,dU,dWA,dYA,6PANGOLAT,9ONGONAN,6SIGN TOMPI,7YMBOL BINDU JUDUL
jNA METEK,jPANGOLAT,kINARBORAS,6VOWEL SIGN E,iE,hI,hKARO I,mO,hO,hPAKPAK E,hU,i FOR SIMALUNGUN SA,3H
4TUB,3TERY,1EACH WITH UMBRELLA,3MED ASCENDING MUSICAL NOTES,7DESCENDING MUSICAL NOTES,7EIGHTH NOTES
7SIXTEENTH NOTES,3NS,3R FACE,4DED PERSON,3TING HEART,3VER,2CAUSE,2D,2ER MUG,3TLE,2L,3L,4 PEPPER
5SYMBOL,5WITH CANCELLATION STROKE,4HOP BELL,2NGALI ABBREVIATION SIGN,9NJI,9U LENGTH MARK
8CURRENCY DENOMINATOR SIXTEEN,hNUMERATOR FOUR,rONE,u LESS THAN THE DENOMINATOR,rTHREE,sWO
8DIGIT EIGHT,eFIVE,fOUR,eNINE,eONE,eSEVEN,fIX,eTHREE,fWO,eZERO,8GANDA MARK,8ISSHAR,8LETTER A,gA,gI
gU,fBA,gHA,fCA,gHA,fDA,gDA,hHA,gHA,fE,fGA,gHA,fHA,fI,gI,fJA,gHA,fKA,gHA,iNDA TA,fLA,fMA,fNA,gGA,gNA
gYA,fO,fPA,gHA,fRA,h WITH LOWER DIAGONAL,nMIDDLE DIAGONAL,gHA,gRA,fSA,gHA,gSA,fTA,gHA,gTA,hHA,fU,gU
fVEDIC ANUSVARA,gOCALIC L,oL,nR,oR,fYA,gYA,8RUPEE MARK,eSIGN,8SANDHI MARK,9IGN ANUSVARA,eVAGRAHA
dCANDRABINDU,dNUKTA,dVIRAMA,fSARGA,8VOWEL SIGN AA,kI,kU,jE,jI,kI,jO,jU,kU,jVOCALIC L,sL,rR,sR
3T ARROW POINTING DOWNWARDS THEN NORTH EAST,4O BOX,3ZENE RING,c WITH CIRCLE,2T SYMBOL,3WEEN
2VERAGE BOX,1HAIKSUKI DANDA,bIGIT EIGHT,gFIVE,hOUR,gNINE,gONE,gSEVEN,hIX,gTHREE,hWO,gZERO
bOUBLE DANDA,aGAP FILLER-1,l2,aHUNDREDS UNIT MARK,aLETTER A,iA,iI,iU,hBA,iHA,hCA,iHA,hDA,iDA,jHA,iHA
hE,hGA,iHA,hHA,hI,iI,hJA,iHA,hKA,iHA,hLA,hMA,hNA,iGA,iNA,iYA,hO,hPA,iHA,hRA,hSA,iHA,iSA,hTA,iHA,iTA
jHA,hU,iU,hVA,iOCALIC L,pR,qR,hYA,aNUMBER EIGHT,mY,hFIFTY,jVE,iORTY,jUR,hNINE,lTY,hONE,hSEVEN,mTY
iIX,kTY,hTEN,iHIRTY,jREE,iWENTY,jO,aSIGN ANUSVARA,gVAGRAHA,fCANDRABINDU,fVIRAMA,hSARGA
aVOWEL SIGN AA,mI,mU,lE,lI,mI,lO,lU,mU,lVOCALIC L,tR,uR,aWORD SEPARATOR,1ICYCLE,6IST
2G REVERSE SOLIDUS,4SOLIDUS,2KINI,2LLED CAP,4IARDS,2OHAZARD SIGN,2RD,3THDAY CAKE,2SON,2TCOIN SIGN
3ING LIP,1LACK BOWTIE,6CENTRE WHITE STAR,7HESS BISHOP,i ROTATED NINETY DEGREES
rTWO HUNDRED SEVENTY DEGREES,cEQUIHOPPER,m ROTATED NINETY DEGREES,cKING,g ROTATED NINETY DEGREES
pTWO HUNDRED SEVENTY DEGREES,dNIGHT,i ROTATED FORTY-FIVE DEGREES,rNINETY DEGREES
rONE HUNDRED THIRTY-FIVE DEGREES,rTHREE HUNDRED FIFTEEN DEGREES,sWO HUNDRED SEVENTY DEGREES
zRED TWENTY-FIVE DEGREES,i-BISHOP,jQUEEN,jROOK,cPAWN,g ROTATED NINETY DEGREES
pTWO HUNDRED SEVENTY DEGREES,cQUEEN,h ROTATED NINETY DEGREES,qTWO HUNDRED SEVENTY DEGREES,cROOK
g ROTATED NINETY DEGREES,pTWO HUNDRED SEVENTY DEGREES,cTURNED BISHOP,jKING,kNIGHT,jPAWN,jQUEEN,jROOK
7IRCLE,c FOR RECORD,dWITH DOWN ARROW,iTWO WHITE DOTS,iWHITE DOT RIGHT,7LUB SUIT,7ROSS ON SHIELD
7URVED DOWNWARDS AND LEFTWARDS ARROW,rRIGHTWARDS ARROW,dLEFTWARDS AND DOWNWARDS ARROW,rUPWARDS ARROW
dRIGHTWARDS AND DOWNWARDS ARROW,sUPWARDS ARROW,dUPWARDS AND LEFTWARDS ARROW,pRIGHTWARDS ARROW
6DIAMOND,d CENTRED,eMINUS WHITE X,eON CROSS,eSUIT,eWITH DOWN ARROW,7OWN POINTING BACKHAND INDEX
a-POINTING DOUBLE TRIANGLE,kISOSCELES RIGHT TRIANGLE,kSMALL TRIANGLE,kTRIANGLE
aWARDS EQUILATERAL ARROWHEAD,7RAUGHTS KING,fMAN,8OPLET,6FLAG,8ORETTE,7OLDER,8UR POINTED STAR
6HARD SHELL FLOPPY DISK,7EART,b SUIT,8XAGON,7ORIZONTAL ELLIPSE,8URGLASS,6LARGE CIRCLE,cSQUARE
7EFT LANE MERGE,bPOINTING BACKHAND INDEX,kINDEX,a-POINTING DOUBLE TRIANGLE,z WITH VERTICAL BAR
kISOSCELES RIGHT TRIANGLE,kPOINTER,kSMALL TRIANGLE,kTRIANGLE,aWARDS BULLET,gEQUILATERAL ARROWHEAD
7OWER LEFT TRIANGLE,cRIGHT TRIANGLE,8ZENGE,6MEDIUM DIAMOND,eOWN-POINTING TRIANGLE,z CENTRED
dLEFT-POINTING TRIANGLE,z CENTRED,eOZENGE,dRIGHT-POINTING TRIANGLE,zE CENTRED,dSMALL DIAMOND
jLOZENGE,jSQUARE,eQUARE,dUP-POINTING TRIANGLE,x CENTRED,7OON LILITH,6NIB,6OCTAGON,6PARALLELOGRAM
7ENNANT,9TAGON,7USHPIN,6QUESTION MARK ORNAMENT,6RECTANGLE,7IGHT POINTING BACKHAND INDEX,lINDEX
b-POINTING DOUBLE TRIANGLE,zE WITH VERTICAL BAR,lISOSCELES RIGHT TRIANGLE,lPENTAGON,mOINTER
lSMALL TRIANGLE,lTRIANGLE,t WITH DOUBLE VERTICAL BAR,bWARDS ARROW,mHEAD,hBULLET
hEQUILATERAL ARROWHEAD,7OSETTE,6SAFETY SCISSORS,7CISSORS,7HOGI PIECE,7KULL AND CROSSBONES
7LIGHTLY SMALL CIRCLE,lSQUARE,7MALL DIAMOND,cLOZENGE,cSQUARE,dTAR,8ILING FACE,7NOWMAN,7PADE SUIT
7QUARE,c BUTTON,dCENTRED,dFOR STOP,7TAR,7UN WITH RAYS,6TELEPHONE,7INY DIAMOND,bLOZENGE,bSQUARE
7OUCHTONE TELEPHONE,7RUCK,7WO-WAY LEFT WAY TRAFFIC,6UNIVERSAL RECYCLING SYMBOL
7P POINTING BACKHAND INDEX,8-POINTING DOUBLE TRIANGLE,iISOSCELES RIGHT TRIANGLE,iSMALL TRIANGLE
iTRIANGLE,8PER LEFT TRIANGLE,cRIGHT TRIANGLE,8WARDS EQUILATERAL ARROWHEAD,6VERTICAL ELLIPSE
fRECTANGLE,9Y SMALL DIAMOND,hLOZENGE,hSQUARE,5-FEATHERED NORTH EAST ARROW,gRIGHTWARDS ARROW
gSOUTH EAST ARROW,6LETTER CAPITAL C,lH,lI,lR,lZ,3NK SYMBOL,2OCK SEXTANT-1,f2,g3,h4,i5,i6,h5,i6,h6,g4
h5,i6,h6,g5,h6,g6,f3,g4,h5,i6,h6,g56,g6,f4,g5,h6,g6,f5,g6,f6,e2,f3,g4,h5,i6,h6,g5,h6,g6,f4,g5,h6,f5
g6,f6,e3,f4,g5,h6,g6,f5,g6,f6,e4,f5,g6,f6,e5,f6,e6,3SSOM,3WFISH,2UE BOOK,5HEART,4BERRIES,1OAR
2LD EIGHT SPOKED ASTERISK,5FIVE SPOKED ASTERISK,5GREEK CROSS,5SALTIRE,6IX SPOKED ASTERISK
5WHITE CIRCLE,bSQUARE,2M,3B,2NE,2OK,4MARK,8 TABS,4S,3MERANG,2POMOFO FINAL LETTER G,mH,mK,mP,mT
9LETTER A,hH,hI,iNN,hM,hN,iG,iN,hU,iNN,gB,hU,gC,hH,gD,gE,hE,hH,hI,hN,iG,iN,hR,gF,gG,hH,hN,hU,hW,gH
gI,hH,hM,hNN,jN,hR,hU,gJ,hI,gK,hW,gL,hH,gM,gN,hG,iG,hN,gO,h WITH DOT ABOVE,hE,hM,hNG,iN,hO,hU,gP,gQ
gR,gS,hH,gT,gU,hNN,gV,gX,gZ,hH,hI,hY,2TTLE WITH POPPING CORK,4OM ARC ANTICLOCKWISE ARROW
7CURLY BRACKET,7HALF BLACK CIRCLE,cINTEGRAL,cLEFT PARENTHESIS,cRIGHT PARENTHESIS,7LEFT CORNER,dROP
cHALF BRACKET,7PARENTHESIS,7RIGHT CORNER,eROP,dHALF BRACKET,7SQUARE BRACKET
l OVER TOP SQUARE BRACKET,7TORTOISE SHELL BRACKET,2UQUET,7 OF FLOWERS,2W AND ARROW,3L OF HYGIEIA
5WITH SPOON,4ING,3TIE,6 WITH LEFT HALF BLACK,cRIGHT HALF BLACK
2X DRAWINGS DOUBLE DOWN AND HORIZONTAL,tLEFT,tRIGHT,kHORIZONTAL,kUP AND HORIZONTAL,rLEFT,rRIGHT
kVERTICAL,s AND HORIZONTAL,xLEFT,xRIGHT,fWN DOUBLE AND HORIZONTAL SINGLE,tLEFT SINGLE,tRIGHT SINGLE
iHEAVY AND HORIZONTAL LIGHT,sLEFT LIGHT,xUP LIGHT,sRIGHT LIGHT,yUP LIGHT,sUP HORIZONTAL LIGHT
iLIGHT AND HORIZONTAL HEAVY,sLEFT HEAVY,xUP HEAVY,sRIGHT HEAVY,yUP HEAVY,sUP HORIZONTAL HEAVY
iSINGLE AND HORIZONTAL DOUBLE,tLEFT DOUBLE,tRIGHT DOUBLE,dHEAVY DOUBLE DASH HORIZONTAL,vVERTICAL,lWN
n AND HORIZONTAL,sLEFT,sRIGHT,jHORIZONTAL,jLEFT,n AND LIGHT RIGHT,jQUADRUPLE DASH HORIZONTAL
yVERTICAL,jRIGHT,jTRIPLE DASH HORIZONTAL,vVERTICAL,jUP,l AND HORIZONTAL,qLEFT,rIGHT DOWN,qRIGHT
jVERTICAL,r AND HORIZONTAL,wLEFT,wRIGHT,dLEFT DOWN HEAVY AND RIGHT UP LIGHT
iHEAVY AND RIGHT DOWN LIGHT,yUP LIGHT,yVERTICAL LIGHT,iLIGHT AND RIGHT DOWN HEAVY,yUP HEAVY
yVERTICAL HEAVY,iUP HEAVY AND RIGHT DOWN LIGHT,eIGHT ARC DOWN AND LEFT,wRIGHT,nUP AND LEFT,uRIGHT
jDIAGONAL CROSS,sDIAMOND,sMIDDLE LEFT TO LOWER CENTRE,zLEFT TO LOWER CENTRE TO MIDDLE RIGHT
zLEFT TO UPPER CENTRE TO MIDDLE RIGHT,zLEFT TO UPPER CENTRE TO MIDDLE RIGHT TO LOWER CENTRE
zRIGHT TO LOWER CENTRE,zRIGHT TO UPPER CENTRE TO MIDDLE LEFT TO LOWER CENTRE
sUPPER CENTRE TO MIDDLE LEFT,zENTRE TO MIDDLE LEFT AND MIDDLE RIGHT TO LOWER CENTRE
zENTRE TO MIDDLE LEFT TO LOWER CENTRE,zENTRE TO MIDDLE LEFT TO LOWER CENTRE TO MIDDLE RIGHT
zENTRE TO MIDDLE RIGHT,zENTRE TO MIDDLE RIGHT AND MIDDLE LEFT TO LOWER CENTRE
zENTRE TO MIDDLE RIGHT TO LOWER CENTRE,zENTRE TO MIDDLE RIGHT TO LOWER CENTRE TO MIDDLE LEFT
yLEFT TO LOWER RIGHT,yRIGHT TO LOWER LEFT,kOUBLE DASH HORIZONTAL,vVERTICAL,lWN,n AND HORIZONTAL
sLEFT,sRIGHT,jHORIZONTAL,t WITH VERTICAL STROKE,jLEFT,n AND HEAVY RIGHT,jQUADRUPLE DASH HORIZONTAL
yVERTICAL,jRIGHT,jTRIPLE DASH HORIZONTAL,vVERTICAL,jUP,l AND HEAVY DOWN,rORIZONTAL,qLEFT,qRIGHT
jVERTICAL,r AND HORIZONTAL,wLEFT,wRIGHT,dRIGHT DOWN HEAVY AND LEFT UP LIGHT
jHEAVY AND LEFT DOWN LIGHT,yUP LIGHT,yVERTICAL LIGHT,jLIGHT AND LEFT DOWN HEAVY,yUP HEAVY
yVERTICAL HEAVY,jUP HEAVY AND LEFT DOWN LIGHT,dUP DOUBLE AND HORIZONTAL SINGLE,rLEFT SINGLE
rRIGHT SINGLE,gHEAVY AND DOWN HORIZONTAL LIGHT,qHORIZONTAL LIGHT,qLEFT DOWN LIGHT,vLIGHT
qRIGHT DOWN LIGHT,wLIGHT,gLIGHT AND DOWN HORIZONTAL HEAVY,qHORIZONTAL HEAVY,qLEFT DOWN HEAVY,vHEAVY
qRIGHT DOWN HEAVY,wHEAVY,gSINGLE AND HORIZONTAL DOUBLE,rLEFT DOUBLE,rRIGHT DOUBLE
dVERTICAL DOUBLE AND HORIZONTAL SINGLE,xLEFT SINGLE,xRIGHT SINGLE,mHEAVY AND HORIZONTAL LIGHT
wLEFT LIGHT,wRIGHT LIGHT,mLIGHT AND HORIZONTAL HEAVY,wLEFT HEAVY,wRIGHT HEAVY
mSINGLE AND HORIZONTAL DOUBLE,xLEFT DOUBLE,xRIGHT DOUBLE,3ING GLOVE,2Y,3S SYMBOL,1PH,1RAHMI DANDA
8IGIT EIGHT,dFIVE,eOUR,dNINE,dONE,dSEVEN,eIX,dTHREE,eWO,dZERO,8OUBLE DANDA,7LETTER A,fA,fI,fU,eBA
fHA,eCA,fHA,eDA,fDA,gHA,fHA,eE,eGA,fHA,eHA,eI,fI,eJA,fHA,eKA,fHA,eLA,fLA,eMA,eNA,fGA,fNA,fYA,eO
fLD TAMIL LLA,qLA,oNNNA,oRRA,oSHORT E,uO,ePA,fHA,eRA,eSA,fHA,fSA,eTA,fHA,fTA,gHA,eU,fU,eVA,fOCALIC L
nL,mR,nR,eYA,7NUMBER EIGHT,jY,eFIFTY,gVE,fORTY,gUR,eJOINER,eNINE,iTY,eONE,h HUNDRED,iTHOUSAND,eSEVEN
jTY,fIX,hTY,eTEN,fHIRTY,gREE,fWENTY,gO,7PUNCTUATION CRESCENT BAR,jDOT,lUBLE DOT,jLINE,kOTUS
7SIGN ANUSVARA,cCANDRABINDU,cJIHVAMULIYA,cOLD TAMIL VIRAMA,cUPADHMANIYA,cVISARGA,7VIRAMA
8OWEL SIGN AA,jI,jU,iBHATTIPROLU AA,iE,iI,jI,iO,jLD TAMIL SHORT E,yO,iU,jU,iVOCALIC L,rL,qR,rR
3ILLE PATTERN BLANK,gDOTS-1,m2,n3,o4,p5,q6,r7,s8,r8,q7,r8,q8,p6,q7,r8,q8,p7,q8,p8,o5,p6,q7,r8,q8,p7
q8,p8,o6,p7,q8,p8,o7,p8,o8,n4,o5,p6,q7,r8,q8,p7,q8,p8,o6,p7,q8,p8,o7,p8,o8,n5,o6,p7,q8,p8,o7,p8,o8
n6,o7,p8,o8,n7,o8,n8,m3,n4,o5,p6,q7,r8,q8,p7,q8,p8,o6,p7,q8,p8,o7,p8,o8,n5,o6,p7,q8,p8,o7,p8,o8,n6
o7,p8,o8,n7,o8,n8,m4,n5,o6,p7,q8,p8,o7,p8,o8,n6,o7,p8,o8,n7,o8,n8,m5,n6,o7,p8,o8,n7,o8,n8,m6,n7,o8
n8,m7,n8,m8,l2,m3,n4,o5,p6,q7,r8,q8,p7,q8,p8,o6,p7,q8,p8,o7,p8,o8,n5,o6,p7,q8,p8,o7,p8,o8,n6,o7,p8
o8,n7,o8,n8,m4,n5,o6,p7,q8,p8,o7,p8,o8,n6,o7,p8,o8,n7,o8,n8,m5,n6,o7,p8,o8,n7,o8,n8,m6,n7,o8,n8,m7
n8,m8,l3,m4,n5,o6,p7,q8,p8,o7,p8,o8,n6,o7,p8,o8,n7,o8,n8,m5,n6,o7,p8,o8,n7,o8,n8,m6,n7,o8,n8,m7,n8
m8,l4,m5,n6,o7,p8,o8,n7,o8,n8,m6,n7,o8,n8,m7,n8,m8,l5,m6,n7,o8,n8,m7,n8,m8,l6,m7,n8,m8,l7,m8,l8,4N
2EAD,4K PERMITTED HERE,4ST-FEEDING,3VE,2ICK,3DE WITH VEIL,4GE AT NIGHT,3EFCASE,5S,2OCCOLI,3KEN BAR
7CIRCLE WITH NORTHWEST ARROW,7HEART,3OM,3WN HEART,1S,1UBBLE TEA,6S,2CKET,2G,3INESE END OF SECTION
9LETTER A,gBA,gCA,gDA,gGA,gHA,gJA,gKA,gLA,gMA,hPA,gNA,hGA,iKA,hRA,hYA,iCA,gPA,gRA,gSA,gTA,gVA,gYA
9PALLAWA,9VOWEL SIGN AE,kE,kI,kO,kU,2HID LETTER A,dBA,dDA,dGA,dHA,dI,dKA,dLA,dMA,dNA,eGA,dPA,dRA,dSA
dTA,dU,dWA,dYA,6VOWEL SIGN I,hU,2ILDING CONSTRUCTION,2LLET,6 OPERATOR,4HORN,8 WITH SOUND WAVES,4SEYE
2RRITO,2S,3 STOP,3T IN SILHOUETTE,4S IN SILHOUETTE,2TTER,6FLY,1YTE ORDER MARK
2ZANTINE MUSICAL SYMBOL AGOGI ARGI,yOTERI,vGORGI,zOTERI,vMESI,xTRIA,vPOLI ARGI,z GORGI,qNATRICHISMA
rTIKENOKYLISMA,xMA,qPESO EKFONITIKON,wXO NEO,rLI,rODERMA ARCHAION,yNEO,sSTROFOI SYNDESMOS NEO
z TELOUS ICHIMATOS,yS,z DIPLI,z NEO,sTHEMA,qRGON,tSYNTHETON,rKTIKO DI,xGA,xKE,xNI,xPA,xVOU,xZO
pCHAMILI,vON,rOREVMA ARCHAION,yNEO,rROA KLITON,vSPATHI,vZYGOS,pDASEIA,qIARGON,sSTOLI APLI MEGALI
zPLI MIKRI,yDIPLI,yTHESEOS,rESIS APLI DYO DODEKATA,wDIGRAMMOS EX DODEKATA
wMONOGRAMMOS TESSERA DODEKATA,wTETARTIMORION,xRIGRAMMOS OKTO DODEKATA,zTIMORION,rFTOGGOS OU,rGORGON
x PARESTIGMENON ARISTERA ANO,zARESTIGMENON ARISTERA KATO,zARESTIGMENON DEXIA,sRAMMA GG,rPLI
u ARCHAION,qYO,pEKSTREPTON,qLAFRON,qNARXIS KAI FTHORA VOU,rDOFONON,qPEGERMA,qTERON ARGOSYNTHETON
wPARAKALESMA,qXO EKFONITIKON,pFANEROSIS DIFONIAS,zMONOFONIAS,zTETRAFONIAS
qHTORA SKLIRON CHROMA VASIS,qTHORA ARCHAION,zHAION DEYTEROU ICHOU,wDIATONIKI DI,zTONIKI KE
zTONIKI NANA,zTONIKI NI ANO,zTONIKI NI KATO,zTONIKI PA,zTONIKI ZO,wENARMONIOS ANTIFONIA
wI YFESIS TETARTIMORION,wMALAKON CHROMA DIFONIAS,zAKON CHROMA MONOFONIAS,wNAOS ICHOS,xENANO
wSKLIRON CHROMA SYNAFI,zIRON CHROMA VASIS,zIRON DIATONON DI,pGENIKI DIESIS,wYFESIS,qORGON ARCHAION
wNEO ANO,z KATO,wPARESTIGMENON ARISTERA,zESTIGMENON DEXIA,uSYNTHETON,sTHMIKON N APLOUN,z N DIPLOUN
qRONTHISMATA,pICHADIN,qMIDIARGON,sFONON,tTHORA,xON,qSAKIA TELOUS ICHIMATOS,rON ARCHAION,uNEO
pKATAVA TROMIKON,vSMA,sHISTI,qENTIMA ARCHAION,xNEO ANO,zO KATO,zO MESO,wTA,y ARCHAION,zNEO ANO
zNEO KATO,zNEO MESO,qLASMA,v ANO,wKATO,qONTEVMA,x ALLO,rRONIS,rUFISMA,qRATIMA ALLO,yRCHAION,xNEO,wTA
vOKOUFISMA,wYPORROON,rEMASTI,qYLISMA,pLEIMMA DYO CHRONON,wENOS CHRONOU,wIMISEOS CHRONOU
wTESSARON CHRONON,xRION CHRONON,rMOI,qYGISMA,pMARTYRIA ALLI DEYTEROS ICHOS,zLLI PROTOS ICHOS
yDEYTEROS ICHOS,yLEGETOS ICHOS,yPLAGIOS ICHOS,zLAGIOS TETARTOS ICHOS,zROTOS ICHOS,zROTOVARYS ICHOS
yTETARTOS ICHOS,zETARTOS LEGETOS ICHOS,zRIFONIAS,zRITOS ICHOS,yVARYS ICHOS,qIKRON ISON,pNANA
pOLIGON ARCHAION,wNEO,qMALON,qXEIA DIPLI,vEKFONITIKON,vNEO,uI ARCHAION,qYRANISMA ARCHAION,zNEO
pPARAKALESMA ARCHAION,zA NEO,uLITIKI,zI ARCHAION,zI NEO,sICHON,qELASTON,x NEO,rRISPOMENI,rTASMA,uTI
vOKOUFISMA,qIASMA ARCHAION,wNEO,qSIFISTOLYGISMA,xN,y NEO,xPARAKALESMA,xSYNAGMA,sLI,tON,pRAPISMA
qEVMA,pSAXIMATA,qEISMA,v NEO,qIMANSIS ARSEOS,zRSEOS DISIMOU,zRSEOS TETRASIMOU,zRSEOS TRISIMOU
yTHESEOS,zHESEOS DISIMOU,zHESEOS TETRASIMOU,zHESEOS TRISIMOU,qTAVROS,w APODEXIA,rIGMA,rRAGGISMATA
qYNAGMA ARCHAION,xMETA STAVROU,xNEO,sEVMA,rRMA,uTIKI,pTELEIA,rSSERA,rTRAPLI,qHEMA,u APLOUN
uTISMOS ESO,zS EXO,sS KAI APOTHES,rITA,qINAGMA,qRIA,sGORGON,sPLI,rOMIKOLYGISMA,wN ALLO,zRCHAION,yNEO
wPARAKALESMA,xSIFISTON,wSYNAGMA,pVAREIA DIPLI,wEKFONITIKON,wNEO,vI ARCHAION,rTHY,pXIRON KLASMA
pYFEN ANO,uKATO,sSIS APLI DYO DODEKATA,wDIGRAMMOS EX DODEKATA,wMONOGRAMMOS TESSERA DODEKATA
wTRIGRAMMOS OKTO DODEKATA,zTIMORION,qPOKRISIS,y DIPLI,sRROI,rSILI,0CACTUS,2DA UNA,3UCEUS,2LENDAR
3L ME HAND,2MERA,6 WITH FLASH,3PING,2N,3ADIAN SYLLABICS A,kA,lI,lY,kI,lVILIK B,kN,kTHAPASCAN M,uS,kY
jBEAVER DENE L,vR,kIBLE-CREE Y,kLACKFOOT A,tE,tI,tKA,uE,uI,uO,tNA,uE,uI,uO,tO,tS,tW,uA,uE,uI,uO,jC
kA,lA,mI,lRRIER CHA,tE,uE,tI,tO,tU,rDEE,tNE GEE,uTAL S,sI,sLA,tE,uE,tI,tO,tU,sZA,tE,uE,tI,tO,tU,rEE
rGA,tA,sE,tE,sHA,tE,uE,tI,tO,tU,sI,sO,sU,sWA,tU,rH,sEE,sI,sWA,tE,uE,tI,tO,tU,rI,sNITIAL Z,rJA,sE,tE
sI,sJA,tE,uE,tI,tO,tU,sO,sU,sWA,rKHA,tE,uE,tI,tO,tU,sK,tA,tE,uE,tI,tO,tU,rLA,sE,tE,sHA,tE,uE,tI,tO
tU,sI,sO,sU,rMA,sE,tE,sI,sO,sU,rNA,sE,tE,sG,sI,sO,sU,rP,sA,sE,tE,sI,sO,sU,rRA,sE,tE,sI,sO,sU,rSA,sE
tE,sH,tA,tE,uE,tI,tO,tU,sI,sO,sU,rTHA,tE,uE,tI,tO,tU,sLA,tE,uE,tHA,uE,vE,uI,uO,uU,tI,tO,tU,sSA,tE,uE
tI,tO,tU,sTA,tE,uE,tI,tO,tSA,uE,vE,uI,uO,uU,tU,rWA,sE,tE,sI,sO,sU,rYA,sE,tE,sI,sO,sU,rZ,sA,sE,tE,sI
sO,sU,kE,kHI SIGN,kI,lI,kO,lO,kWA,mA,lE,lI,mI,lO,mO,jE,kASTERN W,kN,jF,kA,lA,mI,kE,kI,lI,lNAL ACUTE
pBOTTOM HALF RING,pDOUBLE ACUTE,wSHORT VERTICAL STROKES,rWN TACK,pGRAVE,pMIDDLE DOT,pPLUS
pRAISED DOT,qIGHT HALF RING,rNG,pSHORT HORIZONTAL STROKE,qMALL RING,pTOP HALF RING,kO,lO,kULL STOP
kWAA,jGLOTTAL STOP,jHK,kYPHEN,jI,kI,kN,jK,kA,lA,mI,lY,kE,kI,lI,kO,lO,kW,lA,mA,mY,lE,lI,mI,lO,mO,jL
kA,lA,mI,lY,kE,kH,lA,mA,lI,mI,lO,mO,kI,lI,kO,lO,kWA,mA,lE,lI,mI,lO,mO,jM,kA,lA,mI,lY,kE,lDIAL L,qR
kH,kI,lI,kO,lO,mSE-CREE SK,kWA,mA,lE,lI,mI,lO,mO,jN,k-CREE THE,sI,tI,kA,lA,mI,lSKAPI CWAA,rKWAA
rMWAA,rNWAA,rS-W,sCWA,sKW,uA,sPWA,sTWA,sWAA,rTWAA,rWAA,sOO,rYWAA,lTTILIK HA,uA,tI,uI,tO,uO,sSHRA,wA
vI,wI,vO,wO,lY,kE,kG,lA,mA,nI,mI,lI,mI,lO,mO,kH,kI,lI,kNG,mA,nA,mI,nI,mO,nO,kO,lO,lY,kUNAVIK H,sA,tA
sE,sI,tI,sO,tO,oUT H,kWA,mA,lE,lI,mI,lO,mO,jO,kJIBWAY C,rK,rM,rN,sWI,uI,tO,uO,rP,rS,sH,rT,kN,kO,kY
jP,kA,lA,mI,lY,kE,kI,lI,kO,lO,lY,kWA,mA,lE,lI,mI,lO,mO,mY,jQ,kA,lA,mI,lI,kI,lI,kO,lO,jR,k-CREE RE
rWE,kA,lA,mI,lY,kE,kI,lI,kO,lO,kWA,mA,lEE,lI,mI,lO,mO,jS,kA,lA,mI,lY,mISI HA,rE,rI,rO,sO,qJI,rU,sU
qM,qSHA,sE,sI,sO,tO,sWE,qTH,qYI,kE,kH,lA,mA,mY,lE,lI,mI,lO,mO,mY,lWA,nA,mE,mI,nI,mO,nO,nY,kI,lI,kO
lO,lUTH-SLAVEY KAH,xEH,xIH,xOH,lY,kPA,lE,lI,lO,kW,lA,mA,lE,lI,mI,lO,mO,jT,kA,lA,mI,lY,kE,kH
l-CREE TH,tA,uA,tE,tI,uI,tO,uO,lA,mA,lE,lI,mI,lO,mO,lWA,nA,mE,kI,lI,kLHA,mE,mI,mO,nO,mWE,kO,lO,kTA
lE,lH,mA,nA,mE,mI,mO,nO,mWE,lI,lO,kWA,mA,lE,lI,mI,lO,mO,kYA,lE,lI,lO,jWA,lA,lY,kE,lST-CREE CWA,wA,vE
vI,wI,vO,wO,tFWAA,tKWA,wA,vE,vI,wI,vO,wO,tL,uA,vA,uE,uO,vO,uWA,wA,vE,vI,wI,vO,wO,tM,uWA,wA,vE,vI,wI
vO,wO,tNWA,wA,vE,tP,uWA,wA,vE,vI,wI,vO,wO,tR,uA,uE,uI,uO,uWAA,tSHWA,xA,wE,wI,xI,wO,xO,uWA,wA,vE,vI
wI,vO,wO,tTHWAA,uWA,wA,vE,vI,wI,vO,wO,tWA,vA,uE,uI,vI,uO,vO,tY,uWA,wA,vE,vI,wI,vO,wO,nERN W,kI,lI,kO
lO,mDS-CREE FINAL TH,uTH,wA,wE,wI,wO,wWA,yA,xEE,xI,yI,xO,yO,jY,k-CREE COO,qKOO,qLOO,qMOO,qNOO,qOO
qPOO,rWAA,qSOO,qTOO,qW,qYOO,kA,lA,mI,lY,kE,kI,lI,kO,lO,lY,kWA,mA,lE,lI,mI,lO,mO,3CEL,6 CHARACTER
7TAG,6LATION X,5R,3DLE,4Y,3NED FOOD,3OE,2PITULUM,3RICORN,2R SLIDING,3D FILE BOX,5INDEX,a DIVIDERS
3E OF,4T,5 INSERTION POINT,3IAN LETTER A,f2,eB,eC-18,g39,eD,f2,eE,f2,eG,f2,eI,fI,eK,f2,eL,fD,g2,eM
fB,g2,g3,g4,eN,fD,fG,fN,eO,eP,f2,eQ,eR,fR,eS,fH,g2,fS,fT,g2,eT,fT,g2,eU,fU,gU,h2,h3,hU,eX,3ON
4USEL HORSE,3P STREAMER,4ENTRY SAW,3RIAGE RETURN,4OT,2STLE,2T,3 FACE,8 WITH TEARS OF JOY,eWRY SMILE
2UCASIAN ALBANIAN CITATION MARK,jLETTER ALT,rOR,qBET,qCAR,sYN,rHA,tT,sI,sOY,rYAW,tY,qDAT,rYAN,rZAY
sYAY,qEB,rYN,qFAM,qGHEYS,rIM,qHEYT,qINYA,rRB,rWN,qJAYN,rHOX,qKAR,rIW,qLAN,rYIT,qMAQ,qNOWC,qON,qPEN
rIWR,qQAR,sY,qRAT,qSEYK,rHA,tK,sOY,qTAS,rIWR,rYAY,qVEYZ,qXEYN,qYAYD,rOWD,qZARL,rHA,sIL,3TION SIGN
1CH,1EDI SIGN,4LLA,2LTIC CROSS,2NT SIGN,4RE LINE SYMBOL,6LINE LOW LINE,bOVERLINE,2RES,1GJ,1HAINS,4R
3KMA AU MARK,7DANDA,8IGIT EIGHT,dFIVE,eOUR,dNINE,dONE,dSEVEN,eIX,dTHREE,eWO,dZERO,8OUBLE DANDA
7LETTER AA,eBAA,fHAA,eCAA,fHAA,eDAA,fDAA,gHAA,fHAA,eE,eGAA,fHAA,eHAA,eI,eJAA,fHAA,eKAA,fHAA,eLAA
fHAA,eMAA,eNAA,fGAA,fNAA,fYAA,ePAA,fHAA,eRAA,eSAA,eTAA,fHAA,fTAA,gHAA,eU,eVAA,eWAA,eYAA,fYAA
7MAAYYAA,7O MARK,7QUESTION MARK,7SECTION MARK,8IGN ANUSVARA,cCANDRABINDU,cVISARGA,7VIRAMA
8OWEL SIGN A,jA,jI,jU,iE,jI,iI,jI,iO,jI,iU,jU,3M CONSONANT SIGN FINAL H,qM,qNG,kLA,kRA,kWA,kYA
5DIGIT EIGHT,bFIVE,cOUR,bNINE,bONE,bSEVEN,cIX,bTHREE,cWO,bZERO,5LETTER A,dI,cBA,dBA,dHA,cCHA,eHA,cDA
dDA,dHA,cE,cFINAL CH,iG,iK,iL,iN,jG,iP,iR,iSS,iT,iY,cGA,dHA,cHA,cI,cJA,dHA,cKA,dHA,cLA,cMA,dUE,cNA
dGA,eUE,dHA,eJA,eUE,dUE,cO,cPA,dHA,dPA,cRA,cSA,dSA,cTA,dHA,cU,cVA,cYA,5PUNCTUATION DANDA
iOUBLE DANDA,hSPIRAL,hTRIPLE DANDA,5VOWEL SIGN AA,hI,hU,gEI,gI,hI,gO,hE,gU,hE,3RACTER TABULATION
k SET,lWITH JUSTIFICATION,bIE,4T WITH DOWNWARDS TREND,bUPWARDS TREND,o AND YEN SIGN,2ECK MARK
5ER BOARD,d FILL,3ERING MEGAPHONE,4SE WEDGE,3QUERED FLAG,3ROKEE LETTER A,gDA,hE,hI,hLA,hO,hU,hV,gE
gGA,hE,hI,hO,hU,hV,gHA,hE,hI,hNA,hO,hU,hV,gI,gKA,gLA,hE,hI,hO,hU,hV,gMA,hE,hI,hO,hU,hV,gNA,iH,hE,hI
hO,hU,hV,gO,gQUA,iE,iI,iO,iU,iV,gS,hA,hE,hI,hO,hU,hV,gTA,hE,hI,hLA,iE,iI,iO,iU,iV,hSA,iE,iI,iO,iU,iV
gU,gV,gWA,hE,hI,hO,hU,hV,gYA,hE,hI,hO,hU,hV,9SMALL LETTER A,mDA,nE,nI,nLA,nO,nU,nV,mE,mGA,nE,nI,nO
nU,nV,mHA,nE,nI,nNA,nO,nU,nV,mI,mKA,mLA,nE,nI,nO,nU,nV,mMA,nE,nI,nO,nU,nV,mNA,oH,nE,nI,nO,nU,nV,mO
mQUA,oE,oI,oO,oU,oV,mS,nA,nE,nI,nO,nU,nV,mTA,nE,nI,nLA,oE,oI,oO,oU,oV,nSA,oE,oI,oO,oU,oV,mU,mV,mWA
nE,nI,nO,nU,nV,mYA,nE,nI,nO,nU,nV,4RIES,5Y BLOSSOM,3STNUT,2I RHO,3CKEN,3LD,5REN CROSSING,3PMUNK,3RON
2OCOLATE BAR,3PSTICKS,3RASMIAN LETTER ALEPH,jYIN,iBETH,iCURLED WAW,iDALETH,iGIMEL,iHE,kTH,iKAPH
iLAMEDH,iMEM,iNUN,iPE,iRESH,iSAMEKH,jHIN,jMALL ALEPH,iTAW,iWAW,iYODH,iZAYIN,bNUMBER FOUR,iONE
l HUNDRED,iTEN,jHREE,jWENTY,kO,2RISTMAS TREE,2URCH,1INEMA
2RCLE DIVIDED BY HORIZONTAL BAR AND TOP HALF DIVIDED BY VERTICAL BAR
7WITH ALL BUT UPPER LEFT QUADRANT BLACK,cHORIZONTAL BAR,cLEFT HALF BLACK,dOWER HALF BLACK
cRIGHT HALF BLACK,cSMALL CIRCLE TO THE RIGHT,dUPERIMPOSED X,cTWO HORIZONTAL STROKES TO THE RIGHT
cUPPER HALF BLACK,iRIGHT QUADRANT BLACK,cVERTICAL FILL,6D ANTICLOCKWISE ARROW
l-ROTATED DIVISION SIGN,9STERISK OPERATOR,8BOLD X,9ULLET,8C WITH OVERLAID BACKSLASH,9C,9D
9ROSS FORMEE,k WITH FOUR DOTS,qTWO DOTS,ePOMMEE,dING LANES,8DASH,9IGIT EIGHT,eFIVE,fOUR,eNINE,eONE
eSEVEN,fIX,eTHREE,fWO,eZERO,aVISION SIGN,iLASH,9OLLAR SIGN WITH OVERLAID BACKSLASH,aT OPERATOR
8EQUALS,8GREATER-THAN,8HANGUL CHIEUCH,m A,gIEUC,k A,fHIEUH,k A,fIEUNG,k A,lU,fKHIEUKH,m A,gIYEOK,l A
fMIEUM,k A,fNIEUN,k A,fPHIEUPH,m A,gIEUP,k A,fRIEUL,k A,fSIOS,j A,fTHIEUTH,m A,gIKEUT,l A
9EAVY WHITE RIGHTWARDS ARROW,9ORIZONTAL BAR WITH NOTCH,9UMAN FIGURE,8IDEOGRAPH ACCEPT,jDVANTAGE
jLLIANCE,jTTENTION,iCENTRE,jONGRATULATION,kPY,kRRECT,iEARTH,jIGHT,jNTERPRISE,jXCELLENT,iFEMALE
jINANCIAL,kRE,kVE,jOUR,iHAVE,jIGH,iITEM,iKINDERGARTEN,jOTO,iLABOR,jEFT,jOW,iMALE,jEDICINE,kTAL,jOON
iNAME,jIGHT,kNE,iONE,iPRINT,iQUESTION,iRELIGION,kSOURCE,lT,jIGHT,iSCHOOL,jECRET,kVEN,jIX,jOCIETY
jPECIAL,jTOCK,kUDY,jUITABLE,kN,kPERVISE,iTEN,jHREE,jWO,iWATER,jOOD,9NFORMATION SOURCE
9TALIC LATIN CAPITAL LETTER C,z R,8KATAKANA A,hE,hHA,iE,iI,iO,iU,hI,hKA,iE,iI,iO,iU,hMA,iE,iI,iO,iU
hNA,iE,iI,iO,iU,hO,hRA,iE,iI,iO,iU,hSA,iE,iI,iO,iU,hTA,iE,iI,iO,iU,hU,hWA,iE,iI,iO,hYA,iO,iU
9OREAN CHARACTER CHAMKO,pJUEUI,8LATIN CAPITAL LETTER A,tB,tC,tD,tE,tF,tG,tH,tI,tJ,tK,tL,tM,tN,tO,tP
tQ,tR,tS,tT,tU,tV,tW,tX,tY,tZ,eSMALL LETTER A,rB,rC,rD,rE,rF,rG,rH,rI,rJ,rK,rL,rM,rN,rO,rP,rQ,rR,rS
rT,rU,rV,rW,rX,rY,rZ,9ESS-THAN,8MINUS,9ULTIPLICATION SIGN WITH CIRCUMFLEX ACCENT,8NUMBER EIGHTEEN
kY ON BLACK SQUARE,gLEVEN,fFIFTEEN,jY,k ON BLACK SQUARE,gORTY,k EIGHT,lFIVE,mOUR,lNINE
lON BLACK SQUARE,nE,lSEVEN,mIX,lTHREE,mWO,hURTEEN,fNINETEEN,fSEVENTEEN,lY ON BLACK SQUARE,gIXTEEN
jY ON BLACK SQUARE,fTEN,i ON BLACK SQUARE,gHIRTEEN,kY,l EIGHT,mFIVE,nOUR,mNINE,mON BLACK SQUARE,oE
mSEVEN,nIX,mTHREE,nWO,gWELVE,iNTY,l EIGHT,mFIVE,nOUR,mNINE,mON BLACK SQUARE,oE,mSEVEN,nIX,mTHREE,nWO
8OPEN CENTRE EIGHT POINTED STAR,8PARALLEL,9ERPENDICULAR,9LUS,9OSTAL MARK,8REVERSE SOLIDUS
9ING OPERATOR,8SQUARE,8TIMES,9RIANGLE,g DOWN,8VERTICAL BAR,8WHITE BULLET,eSTAR,9Z,8X
8ZERO WITH SLASH,4ULATION FUNCTION,5MFLEX ACCENT,5S TENT,2TYSCAPE,9 AT DUSK
1JK COMPATIBILITY IDEOGRAPH-2F800,w1,w2,w3,w4,w5,w6,w7,w8,w9,wA,wB,wC,wD,wE,wF,v10,w1,w2,w3,w4,w5,w6
w7,w8,w9,wA,wB,wC,wD,wE,wF,v20,w1,w2,w3,w4,w5,w6,w7,w8,w9,wA,wB,wC,wD,wE,wF,v30,w1,w2,w3,w4,w5,w6,w7
w8,w9,wA,wB,wC,wD,wE,wF,v40,w1,w2,w3,w4,w5,w6,w7,w8,w9,wA,wB,wC,wD,wE,wF,v50,w1,w2,w3,w4,w5,w6,w7,w8
w9,wA,wB,wC,wD,wE,wF,v60,w1,w2,w3,w4,w5,w6,w7,w8,w9,wA,wB,wC,wD,wE,wF,v70,w1,w2,w3,w4,w5,w6,w7,w8,w9
wA,wB,wC,wD,wE,wF,v80,w1,w2,w3,w4,w5,w6,w7,w8,w9,wA,wB,wC,wD,wE,wF,v90,w1,w2,w3,w4,w5,w6,w7,w8,w9,wA
wB,wC,wD,wE,wF,vA0,w1,w2,w3,w4,w5,w6,w7,w8,w9,wA,wB,wC,wD,wE,wF,vB0,w1,w2,w3,w4,w5,w6,w7,w8,w9,wA,wB
wC,wD,wE,wF,vC0,w1,w2,w3,w4,w5,w6,w7,w8,w9,wA,wB,wC,wD,wE,wF,vD0,w1,w2,w3,w4,w5,w6,w7,w8,w9,wA,wB,wC
wD,wE,wF,vE0,w1,w2,w3,w4,w5,w6,w7,w8,w9,wA,wB,wC,wD,wE,wF,vF0,w1,w2,w3,w4,w5,w6,w7,w8,w9,wA,wB,wC,wD
wE,wF,u900,w1,w2,w3,w4,w5,w6,w7,w8,w9,wA,wB,wC,wD,wE,wF,v10,w1,w2,w3,w4,w5,w6,w7,w8,w9,wA,wB,wC,wD
wE,wF,v20,w1,w2,w3,w4,w5,w6,w7,w8,w9,wA,wB,wC,wD,wE,wF,v30,w1,w2,w3,w4,w5,w6,w7,w8,w9,wA,wB,wC,wD,wE
wF,v40,w1,w2,w3,w4,w5,w6,w7,w8,w9,wA,wB,wC,wD,wE,wF,v50,w1,w2,w3,w4,w5,w6,w7,w8,w9,wA,wB,wC,wD,wE,wF
v60,w1,w2,w3,w4,w5,w6,w7,w8,w9,wA,wB,wC,wD,wE,wF,v70,w1,w2,w3,w4,w5,w6,w7,w8,w9,wA,wB,wC,wD,wE,wF
v80,w1,w2,w3,w4,w5,w6,w7,w8,w9,wA,wB,wC,wD,wE,wF,v90,w1,w2,w3,w4,w5,w6,w7,w8,w9,wA,wB,wC,wD,wE,wF
vA0,w1,w2,w3,w4,w5,w6,w7,w8,w9,wA,wB,wC,wD,wE,wF,vB0,w1,w2,w3,w4,w5,w6,w7,w8,w9,wA,wB,wC,wD,wE,wF
vC0,w1,w2,w3,w4,w5,w6,w7,w8,w9,wA,wB,wC,wD,wE,wF,vD0,w1,w2,w3,w4,w5,w6,w7,w8,w9,wA,wB,wC,wD,wE,wF
vE0,w1,w2,w3,w4,w5,w6,w7,w8,w9,wA,wB,wC,wD,wE,wF,vF0,w1,w2,w3,w4,w5,w6,w7,w8,w9,wA,wB,wC,wD,wE,wF
uA00,w1,w2,w3,w4,w5,w6,w7,w8,w9,wA,wB,wC,wD,wE,wF,v10,w1,w2,w3,w4,w5,w6,w7,w8,w9,wA,wB,wC,wD,sF900
v1,v2,v3,v4,v5,v6,v7,v8,v9,vA,vB,vC,vD,vE,vF,u10,v1,v2,v3,v4,v5,v6,v7,v8,v9,vA,vB,vC,vD,vE,vF,u20,v1
v2,v3,v4,v5,v6,v7,v8,v9,vA,vB,vC,vD,vE,vF,u30,v1,v2,v3,v4,v5,v6,v7,v8,v9,vA,vB,vC,vD,vE,vF,u40,v1,v2
v3,v4,v5,v6,v7,v8,v9,vA,vB,vC,vD,vE,vF,u50,v1,v2,v3,v4,v5,v6,v7,v8,v9,vA,vB,vC,vD,vE,vF,u60,v1,v2,v3
v4,v5,v6,v7,v8,v9,vA,vB,vC,vD,vE,vF,u70,v1,v2,v3,v4,v5,v6,v7,v8,v9,vA,vB,vC,vD,vE,vF,u80,v1,v2,v3,v4
v5,v6,v7,v8,v9,vA,vB,vC,vD,vE,vF,u90,v1,v2,v3,v4,v5,v6,v7,v8,v9,vA,vB,vC,vD,vE,vF,uA0,v1,v2,v3,v4,v5
v6,v7,v8,v9,vA,vB,vC,vD,vE,vF,uB0,v1,v2,v3,v4,v5,v6,v7,v8,v9,vA,vB,vC,vD,vE,vF,uC0,v1,v2,v3,v4,v5,v6
v7,v8,v9,vA,vB,vC,vD,vE,vF,uD0,v1,v2,v3,v4,v5,v6,v7,v8,v9,vA,vB,vC,vD,vE,vF,uE0,v1,v2,v3,v4,v5,v6,v7
v8,v9,vA,vB,vC,vD,vE,vF,uF0,v1,v2,v3,v4,v5,v6,v7,v8,v9,vA,vB,vC,vD,vE,vF,tA00,v1,v2,v3,v4,v5,v6,v7
v8,v9,vA,vB,vC,vD,vE,vF,u10,v1,v2,v3,v4,v5,v6,v7,v8,v9,vA,vB,vC,vD,vE,vF,u20,v1,v2,v3,v4,v5,v6,v7,v8
v9,vA,vB,vC,vD,vE,vF,u30,v1,v2,v3,v4,v5,v6,v7,v8,v9,vA,vB,vC,vD,vE,vF,u40,v1,v2,v3,v4,v5,v6,v7,v8,v9
vA,vB,vC,vD,vE,vF,u50,v1,v2,v3,v4,v5,v6,v7,v8,v9,vA,vB,vC,vD,vE,vF,u60,v1,v2,v3,v4,v5,v6,v7,v8,v9,vA
vB,vC,vD,u70,v1,v2,v3,v4,v5,v6,v7,v8,v9,vA,vB,vC,vD,vE,vF,u80,v1,v2,v3,v4,v5,v6,v7,v8,v9,vA,vB,vC,vD
vE,vF,u90,v1,v2,v3,v4,v5,v6,v7,v8,v9,vA,vB,vC,vD,vE,vF,uA0,v1,v2,v3,v4,v5,v6,v7,v8,v9,vA,vB,vC,vD,vE
vF,uB0,v1,v2,v3,v4,v5,v6,v7,v8,v9,vA,vB,vC,vD,vE,vF,uC0,v1,v2,v3,v4,v5,v6,v7,v8,v9,vA,vB,vC,vD,vE,vF
uD0,v1,v2,v3,v4,v5,v6,v7,v8,v9,4RADICAL BAMBOO,dLUE,dOLT OF CLOTH,eNE,eX,dRUSH ONE,iTWO
cC-SIMPLIFIED BIRD,pCART,pDRAGON,pEAT,qVEN,pFISH,qLY,qROG,pGATE,qOLD,pHORSE,pLEAF,qONG,pSALT,qEE
qHELL,qILK,qPEECH,pTANNED LEATHER,qOOTH,qURTLE,pWIND,dHOKE,dITY,eVILIAN,dLIFF,eOTHES,dOW,cDEATH
dIVINATION,dOG,cEAT ONE,gTHREE,hWO,dWE,dYE,cFIRE,dOOT,cGHOST,dRASS ONE,iTHREE,jWO,cHAND,dEAD,fRT ONE
iTWO,dORN,cJ-SIMPLIFIED DRAGON,pEVEN,pTOOTH,qURTLE,dADE,cKNIFE ONE,iTWO,cLAME FOUR,hONE,hTHREE,iWO
dONG ONE,hTWO,cMEAT,eSH,dOON,eRTAR,eTHER,eUND ONE,iTWO,cNET FOUR,gONE,gTHREE,hWO,cOLD,cPAW ONE,gTWO
dERSON,cRAIN,eM,eP,dEPEAT,cSEAL,eCOND ONE,jTHREE,kWO,dHEEP,dILK,eMPLIFIED HALF TREE TRUNK,oORN,nWALK
oHEAT,nYELLOW,dMALL ONE,iTWO,dNAKE,eOUT ONE,iTWO,dPIRIT ONE,jTWO,dUN,cTABLE,dHREAD,dIGER,dURTLE
cWALK ONE,hTWO,eTER ONE,iTWO,dEST ONE,hTWO,4STROKE BXG,bD,bH,cG,cP,dWG,cXWG,cZ,dG,dT,dW,eG,dZ,eP,eZ
fG,bN,bP,cD,cG,cZ,bQ,bS,cG,cP,cT,cW,dG,dZ,cZ,dWG,dZ,bT,cN,bWG,bXG,1LAMSHELL MOBILE PHONE,3PPER BOARD
5ING HANDS SIGN,3SSICAL BUILDING,2EAR SCREEN SYMBOL,2INKING BEER MUGS,9GLASSES,3PBOARD
2OCK FACE EIGHT OCLOCK,g-THIRTY,cLEVEN OCLOCK,h-THIRTY,bFIVE OCLOCK,f-THIRTY,cOUR OCLOCK,f-THIRTY
bNINE OCLOCK,f-THIRTY,bONE OCLOCK,e-THIRTY,bSEVEN OCLOCK,g-THIRTY,cIX OCLOCK,e-THIRTY,bTEN OCLOCK
e-THIRTY,cHREE OCLOCK,g-THIRTY,cWELVE OCLOCK,h-THIRTY,dO OCLOCK,e-THIRTY,5WISE CLOSED CIRCLE ARROW
bONTOUR INTEGRAL,aDOWNWARDS AND UPWARDS OPEN CIRCLE ARROWS,aGAPPED CIRCLE ARROW,aINTEGRAL
aOPEN CIRCLE ARROW,aRIGHT AND LEFT SEMICIRCLE ARROWS,fWARDS AND LEFTWARDS OPEN CIRCLE ARROWS
zOPEN CIRCLE ARROWS WITH CIRCLED ONE OVERLAY,aTOP SEMICIRCLE ARROW,bRIANGLE-HEADED OPEN CIRCLE ARROW
3SE UP,5D BOOK,7INTERSECTION WITH SERIFS,7LOCK WITH KEY,7MAILBOX WITH LOWERED FLAG,kRAISED FLAG
7SUBSET,d OR EQUAL TO,9PERSET,f OR EQUAL TO,7UMBRELLA,8NION WITH SERIFS,o AND SMASH PRODUCT,3UD
5 WITH LIGHTNING,bRAIN,bSNOW,bTORNADO,3WN FACE,1OAT,2CKROACH,4TAIL GLASS,3ONUT,2FFIN,2IN
2LLISION SYMBOL,3ON,5 EQUALS,6SIGN,2MBINING ACUTE ACCENT,m BELOW,gTONE MARK,f-GRAVE-ACUTE,gMACRON
bLMOST EQUAL TO ABOVE,qBELOW,bNNUITY SYMBOL,cTICLOCKWISE ARROW ABOVE,oRING OVERLAY,bSTERISK ABOVE
jBELOW,aBINDU BELOW,bREVE,f BELOW,f-MACRON,cIDGE ABOVE,hBELOW,aCANDRABINDU,cRON,f BELOW,bEDILLA
bIRCUMFLEX ACCENT,r BELOW,bLOCKWISE ARROW ABOVE,kRING OVERLAY,bOMMA ABOVE,l RIGHT,gBELOW
cNJOINING MACRON,r BELOW,bYRILLIC DASIA PNEUMATA,jHUNDRED MILLIONS SIGN,rTHOUSANDS SIGN,jKAVYKA
jLETTER A,qBE,rIG YUS,qCHE,qDE,rJERV,qEF,rL,rM,rN,rR,rS,s-TE,qFITA,qGHE,qHA,sRD SIGN,qI,rE
rOTIFIED A,zBIG YUS,zE,qKA,qLITTLE YUS,qMONOGRAPH UK,qO,rMEGA,qPE,qSHA,sCHA,rOFT SIGN,qTE,rSE,qU
rKRAINIAN IE,qVE,qYAT,rERU,rI,rU,qZE,rHE,jMILLIONS SIGN,jPALATALIZATION,lYEROK,kOKRYTIE
kSILI PNEUMATA,jTEN MILLIONS SIGN,kHOUSAND MILLIONS SIGN,kITLO,o LEFT HALF,pRIGHT HALF,jVZMET
aDELETION MARK,cVANAGARI DIGIT EIGHT,rFIVE,sOUR,rNINE,rONE,rSEVEN,sIX,rTHREE,sWO,rZERO,lLETTER A,sKA
sNA,sPA,sRA,sU,sVI,lSIGN AVAGRAHA,bIAERESIS,j BELOW,j-RING,bOT ABOVE,j LEFT,kRIGHT,eBELOW,j LEFT
dTED ACUTE ACCENT,hGRAVE ACCENT,cUBLE ACUTE ACCENT,hBREVE,m BELOW,hCIRCUMFLEX ABOVE,hGRAVE ACCENT
hINVERTED BREVE,v BELOW,hLOW LINE,hMACRON,n BELOW,hOPEN MARK BELOW,iVERLINE,hPARENTHESES ABOVE
iLUS SIGN ABOVE,rBELOW,hRIGHTWARDS ARROW BELOW,jNG BELOW,hTILDE,m LEFT HALF,nRIGHT HALF
hVERTICAL LINE ABOVE,vBELOW,qSTROKE OVERLAY,gD CIRCUMFLEX ACCENT,cWN TACK BELOW,eWARDS ARROW
aENCLOSING CIRCLE,q BACKSLASH,kDIAMOND,kKEYCAP,kSCREEN,lQUARE,kUPWARD POINTING TRIANGLE
bQUALS SIGN BELOW,aFERMATA,bOUR DOTS ABOVE,aGLAGOLITIC LETTER AZU,sBIG YUS,tUKY,sCHRIVI,sDJERVI
tOBRO,sFITA,tRITU,sGLAGOLI,sHERU,sI,tNITIAL IZHE,tOTATED BIG YUS,z SMALL YUS,tZHE,sKAKO,sLJUDIJE
sMYSLITE,sNASHI,sONU,sPOKOJI,sRITSI,sSHA,uTA,tLOVO,tMALL YUS,sTSI,tVRIDO,sUKU,sVEDE,sYATI,tERI,vU
uSTU,tO,tU,sZEMLJA,tHIVETE,bRANTHA DIGIT FIVE,pOUR,oONE,oSIX,oTHREE,pWO,oZERO,iLETTER A,pKA,pNA,pPA
pVI,dPHEME JOINER,dVE ACCENT,m BELOW,gTONE MARK,f-ACUTE-GRAVE,gMACRON,cEEK DIALYTIKA TONOS,gKORONIS
gMUSICAL PENTASEME,oTETRASEME,pRISEME,gPERISPOMENI,gYPOGEGRAMMENI,aHOMOTHETIC ABOVE,cOK ABOVE,cRN
aINFINITY,cVERTED BREVE,o BELOW,lIDGE BELOW,jDOUBLE ARCH ABOVE,vBELOW,bS BELOW
aKATAKANA-HIRAGANA SEMI-VOICED SOUND MARK,sVOICED SOUND MARK,cVYKA ABOVE LEFT,nRIGHT
aLATIN LETTER SMALL CAPITAL G,zL L,zL M,zL N,zL R,gSMALL LETTER A,u WITH DIAERESIS,uE,uLPHA,uO,uV,tB
uETA,tC,u CEDILLA,tD,tE,uSH,uTH,tF,uLATTENED OPEN A ABOVE,tG,tH,tI,uNSULAR D,zR G,zR R,zR T,tK,tL
u WITH DOUBLE MIDDLE TILDE,uONG S,tM,tN,tO,u WITH DIAERESIS,z LIGHT CENTRALIZATION STROKE,tP,tR
u BELOW,vROTUNDA,tS,uCHWA,tT,uURNED W BELOW,tU,u WITH DIAERESIS,z LIGHT CENTRALIZATION STROKE,tV,tW
u BELOW,tX,tZ,bEFT ANGLE ABOVE,lBELOW,gRROW ABOVE,lBELOW,kHEAD ABOVE,pBELOW,fHALF RING ABOVE,pBELOW
hRPOON ABOVE,fPARENTHESIS ABOVE LEFT,rBELOW LEFT,fRIGHT ARROW ABOVE,rBELOW,fTACK BELOW
eWARDS ARROW OVERLAY,kHARPOON WITH BARB DOWNWARDS,bIGATURE LEFT HALF,s BELOW,jRIGHT HALF,t BELOW
dHT CENTRALIZATION STROKE BELOW,bONG DOUBLE SOLIDUS OVERLAY,fSOLIDUS OVERLAY,gTROKE OVERLAY
fVERTICAL LINE OVERLAY,cW LINE,aMACRON,g BELOW,hLEFT HALF,q BELOW,hRIGHT HALF,r BELOW,g-ACUTE,hBREVE
hGRAVE,bINUS SIGN BELOW,aNOT TILDE ABOVE,bUMBER SIGN ABOVE,aOGONEK,g ABOVE,bLD PERMIC LETTER AN,sDOI
sNENOE,sSII,sZATA,bPEN MARK BELOW,bVERLINE,aPALATALIZED HOOK BELOW,cRENTHESES ABOVE,mBELOW,mOVERLAY
bLUS SIGN ABOVE,kBELOW,aRETROFLEX HOOK BELOW,cVERSE SOLIDUS OVERLAY,hD COMMA ABOVE,bIGHT ARROW ABOVE
mBELOW,lHEAD ABOVE,rND DOWN ARROWHEAD BELOW,uUP ARROWHEAD BELOW,qBELOW,gHALF RING ABOVE,qBELOW
iRPOON ABOVE,gPARENTHESIS ABOVE RIGHT,sBELOW RIGHT,gTACK BELOW,fWARDS HARPOON WITH BARB DOWNWARDS
cNG ABOVE,fBELOW,fOVERLAY,aSEAGULL BELOW,bHORT SOLIDUS OVERLAY,hTROKE OVERLAY,gVERTICAL LINE OVERLAY
bNAKE BELOW,bQUARE BELOW,iRACKETS ABOVE,bTRONG CENTRALIZATION STROKE BELOW,bUSPENSION MARK
aTHREE DOTS ABOVE,bILDE,f BELOW,gLEFT HALF BELOW,gOVERLAY,gRIGHT HALF BELOW,bRIPLE ACUTE ACCENT,hDOT
hUNDERDOT,bURNED COMMA ABOVE,aUP TACK ABOVE,iBELOW,cWARDS ARROW BELOW,bR ABOVE,bS ABOVE
aVERTICAL LINE ABOVE,oBELOW,jTILDE,aWIDE BRIDGE ABOVE,fINVERTED BRIDGE BELOW,cGGLY LINE BELOW
aX ABOVE,cBELOW,b-X BELOW,aZIGZAG ABOVE,hBELOW,3ET,3MA,4ERCIAL AT,bMINUS SIGN,3PASS,4LEMENT
4OSITION SYMBOL,4RESSION,2NFETTI BALL,4OUNDED FACE,4USED FACE,3GRUENT WITH DOT ABOVE,3ICAL TAPER
3JUNCTION,3STRUCTION SIGN,dWORKER,3TAINS AS MEMBER,cNORMAL SUBGROUP,r OR EQUAL TO
9WITH LONG HORIZONTAL STROKE,eOVERBAR,eVERTICAL BAR AT END OF HORIZONTAL STROKE
4INUOUS UNDERLINE SYMBOL,4OUR INTEGRAL,4ROL KNOBS,8SEQUENCE INTRODUCER,3VENIENCE STORE,2OKED RICE
4IE,5NG,2PTIC CAPITAL LETTER AKHMIMIC KHEI,nLFA,mBOHAIRIC KHEI,mCROSSED SHEI,oYPTOGRAMMIC EIE
z GANGIA,z NI,z SHEI,mDALDA,nEI,nIALECT-P ALEF,wHORI,wKAPA,wNI,mEIE,mFEI,nI,mGAMMA,oNGIA,mHATE,nORI
mIAUDA,mKAPA,nHEI,oI,nSI,mL-SHAPED HA,nAULA,mMI,mNI,mO,nLD COPTIC AIN,xDJA,xESH,xGANGIA,xHA,zT,yEI
yORI,xOOU,xSHEI,zIMA,qNUBIAN NGI,yYI,xSHIMA,xWAU,nOU,mPI,nSI,mRO,mSAMPI,nHEI,oIMA,nIMA,nOU,mTAU
nHETHE,mUA,mVIDA,mZATA,8OMBINING NI ABOVE,hSPIRITUS ASPER,qLENIS,7EPACT DIGIT EIGHT,jFIVE,kOUR,jNINE
jONE,jSEVEN,kIX,jTHREE,kWO,dNUMBER EIGHT HUNDRED,pY,kFIFTY,mVE HUNDRED,lORTY,mUR HUNDRED
kNINE HUNDRED,oTY,kONE HUNDRED,kSEVEN HUNDRED,pTY,lIX HUNDRED,nTY,kTEN,lHIRTY,mREE HUNDRED,lWENTY
mO HUNDRED,dTHOUSANDS MARK,7FRACTION ONE HALF,8ULL STOP,7MORPHOLOGICAL DIVIDER
7OLD NUBIAN DIRECT QUESTION MARK,iFULL STOP,iINDIRECT QUESTION MARK,iVERSE DIVIDER
7SMALL LETTER AKHMIMIC KHEI,lLFA,kBOHAIRIC KHEI,kCROSSED SHEI,mYPTOGRAMMIC EIE,yGANGIA,yNI,ySHEI
kDALDA,lEI,lIALECT-P ALEF,uHORI,uKAPA,uNI,kEIE,kFEI,lI,kGAMMA,mNGIA,kHATE,lORI,kIAUDA,kKAPA,lHEI,mI
lSI,kL-SHAPED HA,lAULA,kMI,kNI,kO,lLD COPTIC AIN,vDJA,vESH,vGANGIA,vHA,xT,wEI,wORI,vOOU,vSHEI,xIMA
oNUBIAN NGI,wYI,vSHIMA,vWAU,lOU,kPI,lSI,kRO,kSAMPI,lHEI,mIMA,lIMA,lOU,kTAU,lHETHE,kUA,kVIDA,kZATA
8YMBOL KAI,fHI RO,eMI RO,ePI RO,eSHIMA SIMA,fTAUROS,eTAU RO,3YLEFT SYMBOL,4RIGHT SIGN,2RAL
3NISH VERSE DIVIDER,3RESPONDS TO,2UCH AND LAMP,3NTERBORE,7SINK,5ING ROD TENS DIGIT EIGHT,oFIVE,pOUR
oNINE,oONE,oSEVEN,pIX,oTHREE,pWO,dUNIT DIGIT EIGHT,oFIVE,pOUR,oNINE,oONE,oSEVEN,pIX,oTHREE,pWO
3PLE WITH HEART,2W,3 FACE,1R,2AB,2EDIT CARD,3SCENT MOON,2ICKET,7 BAT AND BALL,2OCODILE,3ISSANT
3SS MARK,6OF JERUSALEM,9LORRAINE,6PATTY WITH LEFT CROSSBAR,hRIGHT CROSSBAR,7OMMEE
c WITH HALF-CIRCLE BELOW,5ED FLAGS,8NEGATIVE SQUARED LATIN CAPITAL LETTER P,8SWORDS,5ING LANES,3WN
2UTCH,3ZEIRO SIGN,2YING CAT FACE,7FACE,3STAL BALL,1SI,1UBE ROOT,2CUMBER
2NEIFORM NUMERIC SIGN EIGHT ASH,tDISH,tGESH2,tSHAR2,tU,u VARIANT FORM,tVARIANT FORM USSU
zT FORM USSU3,oLAMITE FIFTY,wORTY,vONE THIRD,vTWO THIRDS,nFIVE ASH,v TENU,sBAN2,w VARIANT FORM,tURU
sDISH,sGESH2,wU,sSHAR2,wU,tIXTHS DISH,sU,t VARIANT FORM,oOUR ASH,v TENU,sBAN2,w VARIANT FORM,tURU
sDISH,sGESH2,wU,sSHAR2,wU,sU,t VARIANT FORM,sVARIANT FORM LIMMU,z FORM LIMMU A,z FORM LIMMU B
z FORM LIMMU4,nNIGIDAESH,tMIN,pNE ASH,sDISH,sGESH2,sSHAR2,sU,t VARIANT FORM,sVARIANT FORM ILIMMU
z FORM ILIMMU A,z FORM ILIMMU3,z FORM ILIMMU4,nOLD ASSYRIAN ONE QUARTER,z ONE SIXTH,oNE BAN2,sURU
rEIGHTH ASH,sSHE3,rGESH2,vU,rHALF GUR,rQUARTER ASH,zGUR,rSHARU,rTHIRD DISH,xVARIANT FORM A
nSEVEN ASH,tDISH,tGESH2,tSHAR2,tU,u VARIANT FORM,tVARIANT FORM IMIN A,zT FORM IMIN B,zT FORM IMIN3
oHAR2 TIMES GAL PLUS DISH,zGAL PLUS MIN,oIX ASH,u TENU,rDISH,rGESH2,rSHAR2,rU,s VARIANT FORM
rVARIANT FORM ASH9,nTHREE ASH,w TENU,tBAN2,uURU,x VARIANT FORM,tDISH,tGESH2,xU,tSHAR2,y VARIANT FORM
xU,y VARIANT FORM,tVARIANT FORM ESH16,zT FORM ESH21,oWO ASH,u TENU,rBAN2,sURU,rESHE3,rGESH2,vU
rSHAR2,vU,rTHIRDS DISH,yVARIANT FORM A,aPUNCTUATION SIGN DIAGONAL COLON,z QUADCOLON,z TRICOLON
rOLD ASSYRIAN WORD DIVIDER,rVERTICAL COLON,aSIGN A,g TIMES A,nBAD,nGAN2 TENU,nHA,nIGI,nLAGAR GUNU
nMUSH,nSAG,g2,gB,h GUNU,iTIMES ASH2,oDUN3 GUNU,oGAL,qN2 TENU,oHA,oIGI GUNU,pMIN,oLAGAB,oNUN,r TENU
oSHESH,qU2,oU PLUS U PLUS U,h2,i TIMES A,pBALAG,pGAN2 TENU,pME PLUS EN,pSHA3,pTAK4,gD,h TIMES ESH2
gK,h TIMES ERIN2,oSHITA PLUS GISH,gL,h TIMES AL,oDIM2,oGISH,oHA,oKAD3,pI,oSHE,oUSH,hAN,hEPH,gMAR
j TIMES KUG,qSHE,gN,h OVER AN,iPLUS NAGA OPPOSING AN PLUS NAGA,sSQUARED,iTHREE TIMES,hSHE,gPIN,gRAD
j TIMES KUR,hKAB,gSAL2,hH,i KABA TENU,jOVER ASH OVER ASH,zH CROSSING ASH OVER ASH OVER ASH
sTUG2 OVER TUG2 TUG2 OVER TUG2 PAP,jZIDA TENU,i2,iGAB,fBA,hD,i TIMES DISH TENU,hG3,hHAR2,l TIMES AB2
sNI,sZA,hL,i OVER BAL,iAG,hR,iA2,gI,h TIMES A,oGAR,oIGI GUNU,gU,h CROSSING BU,iOVER BU AB,qTIMES NA2
qUN,hLUG,k OVER BULUG,hR,i2,fDA,h TIMES TAK4,hG,i KISIM5 TIMES A PLUS MASH,xMAR,wBALAG,xI,wGA
y PLUS MASH,xI,yR2,xUD,wHA,wIR,y PLUS LU,wKAK,wLA,xU,y PLUS MASH2,yM,wNE,wPAP PLUS PAP,wSI,wTAK4
wU2 PLUS GIR2,zPLUS MASH,xSH,jTIMES KUR,i3,hM,hR,iA3,j4,gI,hB,hM,i TIMES IGI,pSHE,pU U U,i2
j TIMES UD,hN,i KASKAL U GUNU DISH,hSH,j PLUS SHU,gU,h GUNU,iOVER DU,iSHESHIG,hB,i TIMES ESH2,pSHE
i2,hG,i TIMES ANSHE,qSH,s AT LEFT,pDIN,qUN,pERIN2,pGA,qI,rR2 GUNU,rSH,pHA,qI,pIGI GUNU,pKASKAL,qUR
rSHU2,v PLUS KASKAL,pLAK-020,rM,s TIMES KUR,qUH PLUS GISH,pMASH,qES,qI,pNI,pPI,pSHE,qI GUNU,iUD,hH
hN,i3,j GUNU,o GUNU,i4,hR2,fE,g OVER E NUN OVER NUN,hTIMES PAP,g2,h TIMES A PLUS HA PLUS DA,oGAR
oKUR,oMI,oPAP,oSAL,pHE,oU,gDIN,gGIR,gL,gN,h CROSSING EN,iOPPOSING EN,iSQUARED,iTIMES GAN2,s TENU,oME
gREN,hIN2,k X,gSH2,j CROSSING ESH2,gZEN,j SHESHIG TIMES ASH,yHI,yIGI GUNU,yLA,zAL,yME,zES,ySU
kTIMES A,r PLUS LAL,zL TIMES LAL,rN,qBAD,qDUN3 GUNU,z GUNU,qGUD,qHA,s GUNU,qIGI GUNU,qKASKAL
w SQUARED,rU3,qLA,sL TIMES LAL,rI,rU,qSHE,rU,qU2,rD,fGA,h GUNU,h2,i OVER GA2
jTIMES A PLUS DA PLUS HA,wHA,wIGI,qB2 TENU PLUS TAB,qN,r PLUS KAK PLUS A,qSH,s2,t PLUS GAL,pBAD
rHAR2,rR PLUS RA,qUR,s PLUS RA,pDA,qI,rM GUNU,tTIMES SHE,qUB,rG TIMES IGI GUNU,zKASKAL,pEL,r PLUS LA
qN,r TIMES GAN2 TENU,qREN,pGA,rN2 TENU,rR,s PLUS DI,yNE,qI,r4,s PLUS A,rR2 PLUS SU,pHA PLUS A
xLU PLUS ESH2,rL,s PLUS LA,qI PLUS LI,qUB2,pIGI GUNU,qSH PLUS HU PLUS ASH,pKAK,rSKAL,qID,s PLUS LAL
qU3 PLUS AN,rSHU2 PLUS KASKAL,pLA,rM,s TIMES KUR,qUH,pME PLUS EN,qI,qUSH,pNE,r PLUS E2,xGI,qUN
s OVER NUN,pPA,pSAL,rR,qHE,s PLUS TUR,rID,sM,qUM,pTAK4,pU,qD,r PLUS DU,pZIZ2,hBA,j CROSSING GABA
kROTATED NINETY DEGREES,hD,i OVER GAD GAR OVER GAR,hL,i GAD OVER GAD GAR OVER GAR,iAM,hM,hN,i2
j CROSSING GAN2,kOVER GAN2,kTENU,hR,i3,hSHAN,gE22,hSHTIN,m TIMES KUR,tU,gI,h CROSSING GI,iTIMES E,oU
h4,i CROSSING GI4,jOVER GI4,hDIM,hG,hR2,j GUNU,i3,j TIMES A PLUS IGI,qGAN2 TENU,qIGI,qLU PLUS IGI
qPA,hSAL,iH,j CROSSING GISH,kTENU,lIMES BAD,qGISH CROSSING GISH,qTAK4,gU,h CROSSING GU,h2,i GUNU
jTIMES IGI GUNU,pKAK,s TIMES IGI GUNU,pNUN,pSAL PLUS TUG2,hD,i OVER GUD LUGAL,jPLUS GISH TIMES TAK4
jTIMES A PLUS KUR,pKUR,hL,hM,i TIMES SHE,hR,i7,iUN,jSH,fHA,h GUNU,iTENU,m GUNU,hL,gI,h TIMES ASH
r OVER HI TIMES ASH,r2,oBAD,oDISH,oGAD,oKIN,oNUN,oSHE,oU,gU,hB2,j TIMES AN,qHAL,qKASKAL,qLISH,qUD
hL2,hSH,fI,g A,gB,gDIM,j OVER IDIM BUR,uSQUARED,gG,hI,i DIB,jGUNU
jOVER IGI SHIR OVER SHIR UD OVER UD,jRI,gL,h TIMES GAN2 TENU,h2,gM,h CROSSING IM,iOPPOSING IM
iSQUARED,iTIMES TAK4,hIN,gN,gR,gSH,fKA,h TIMES A,pD,q PLUS KU3,pNSHE,pSH2,r3,oBAD,qLAG,qR,pI,pU
oERIN2,pSH2,oGA,qL,qN2 TENU,qR,r PLUS SHA3 PLUS A,pI,qR2,qSH,s CROSSING GISH,tPLUS SAR,pU,qD,qR7
oHI TIMES ASH2,oIGI,pM,oKA,qK,pI,qD,oLI,pU,qM,oME,q PLUS DU,wGI,wTE,pI,q PLUS NUNUZ,oNE,pUN,oPA,pI
oRU,oSA,qR,pHA,qE,qID,qU,rL,pIG,pUHUR,oTAR,pU,oU,p U U,p2,pD,pMUM TIMES PA,pR,q2,pSH,oZI,h2
i CROSSING KA2,hB,hD2,i3,i4,i5,j OVER KAD5,hK,i TIMES IGI GUNU,hL,i CROSSING KAL,jTIMES BAD,hM2,i4
hP ELAMITE,hSKAL,l LAGAB TIMES U OVER LAGAB TIMES U,mOVER KASKAL LAGAB TIMES U OVER LAGAB TIMES U
gESH2,gI,h TIMES BAD,oU,pD,hD,hN,hSAL,iH,iIM5,l OVER KISIM5,gU
h OVER HI TIMES ASH2 KU OVER HI TIMES ASH2,h3,h4,i VARIANT FORM,h7,hL,i GUNU,hN,hR,i OPPOSING KUR
hSHU2,gWU318,fLA,hGAB,k SQUARED,lTIMES A,s PLUS DA PLUS HA,yGAR,yLAL,sL,sN,sSH ZIDA TENU,rBAD,sI
rDAR,rEN,rGA,tR,sI,sUD,u PLUS GUD,rHA,tL,sI TIMES NUN,rIGI GUNU,sM,t PLUS HA,zLU,rKI,tN,sU3,tL
u PLUS HI PLUS A,rLAGAB,sISH,sU,tL,rME,t PLUS EN,sUSH,rNE,rSHE PLUS SUM,tITA PLUS GISH PLUS ERIN2
zUS GISH TENU,tU2,v PLUS SHU2,sUM,rTAG,tK4,sE PLUS A PLUS SU PLUS NA,rU,s PLUS A,yU PLUS U
s2 PLUS ASH,sD,sSH,rZU OVER ZU,jR,k GUNU,p OVER LAGAR GUNU SHE,lTIMES SHE,u PLUS SUM,hHSHU,hK-003
k21,l5,k30,k50,l1,k62,k79 OVER LAK-079 GUNU,k80,l1 OVER LAK-081,k92,j130,k42,j210,l9,k20,l5,l8,k38
k65,l6,j343,l7,l8,k83,l4,k90,j441,l9,m TIMES GU,tIGI,tPAP PLUS LU3,zUS PAP PLUS LU3,tU2 PLUS BA,k50
l7,k70,k83,k90,l2,l3,l5,j550,j608,k17,m TIMES ASH,tBAD,tDUN3 GUNU GUNU,tKU3,tLA,tTAR,uE,tU2,uD,uRUDA
k36,k48,m TIMES DUB,tGA,tIGI,w GUNU,tNI,tPAP PLUS PAP PLUS LU3,tSHESH PLUS KI,tUD,uRUDA,j724,k49,hL
i TIMES LAL,hM,i TIMES KUR,s PLUS RU,gI,hL,hMMU2,hSH,gU,h TIMES BAD,h2,i CROSSING LU2
jGUNU TIMES ASH,jOPPOSING LU2,jSHESHIG,q TIMES BAD,kQUARED,jTENU,kIMES AL,pBAD,pDISH,pESH2
t PLUS LAL,uTENU,pGAN2 TENU,pHAL,qI TIMES BAD,pIM,pKAD2,s3,t PLUS ASH,qI,pLA PLUS ASH,rGAB
pME PLUS EN,pNE,qU,pPAP,s PLUS PAP PLUS LU3,pSHU,qI PLUS ASH,rK2 PLUS BU,pTAK4,qUG2,h3,hGAL
k OPPOSING LUGAL,mVER LUGAL,lSHESHIG,hH,hL,hM,i OVER LUM,r GAR OVER GAR,fMA,h GUNU,iTIMES TAK4,h2,hH
hR,hSH,j2,gE,hS,iH,gI,h PLUS ZA7,hN,gU,h OVER MU,hG,i GUNU,hNSUB,hRGU2,hSH,j CROSSING MUSH
kOVER MUSH,t TIMES A PLUS NA,z GA,z KAK,kTIMES A,qKUR,qZA,j3,k GUNU,lTIMES A,s PLUS DI,rDI,rZA,fNA
h2,h4,hGA,j INVERTED,kOPPOSING NAGA,kTIMES SHU TENU,jR,hM,i NUTILLU,i2,gE,h SHESHIG,iTIMES A,oUD,gI
h TIMES E,h2,hM,i TIMES GAN2 TENU,rR PLUS GAN2 TENU,hN,i9,iDA2,l TIMES AN,tSH,v PLUS ASH,sBAL
sDIM GUNU,sGI,uSH,tUD,uL,sHI,sKESH2,sLAK-050,sMASH,tE PLUS GAN2 TENU,sNE,tUN,sPAP PLUS PAP,sSHE
v PLUS A AN,zS ASH,zS ASH PLUS ASH,sU,t PLUS U,t2 PLUS ASH,tRUDA,tSH,hSAG,gU,h11
j OVER NU11 BUR OVER BUR,kROTATED NINETY DEGREES,kTENU,hN,i CROSSING NUN,v LAGAR OVER LAGAR
jLAGAR TIMES GAR,vMASH,vSAL,y OVER NUN LAGAR TIMES SAL,vUSH,jOVER NUN,jTENU,iUZ,k AB2 TIMES ASHGAB
vBI,vDUG,vGUD,vIGI GUNU,vKAD3,vLA,vNE,vSILA3,vU2,lKISIM5 TIMES BI,zI U,fPA,hD,hN,hP,gESH2,k ASTERISK
gI,h CROSSING PI,iTIMES A,pB,oBI,pU,oE,oI,pB,oU,p2,hR2,iIG,k OPPOSING PIRIG,lTIMES KAL,rUD,rZA,fRA
hB,gI,gU,fSA,hG,i GUNU,n TIMES HA,jNUTILLU,jOVER SAG,jTIMES A,pDU,rB,pEN,pHA,pIGI GUNU,pKAK,qUR,pLUM
pMI,pNUN,pSAL,qHE AT LEFT,rID,pTAB,rK4,pU2,qB,qM,qR,qSH,hL,i LAGAB TIMES ASH2,hNGA2,hR,gHA,i3
j TIMES A,qBAD,qGISH,qNE,qSHU2,qTUR,qU,r PLUS A,i6,j TENU,iB6,iR2,hE,i HU,jOVER SHE
r GAD OVER GAD GAR OVER GAR,sTAB OVER TAB GAR OVER GAR,jPLUS HUB2,oNAM2,oSAR,iG9,iN,iSH,k2,kLAM,hID
j TIMES A,qIM,iM,j TIMES A,qBAL,rULUG,qDIN,qGAR,qIGI,t GUNU,qKUSHU2,qLUL,qMUG,qSAL,iNIG,iR
j OVER SHIR BUR OVER BUR,kTENU,iTA,hU,i OVER INVERTED SHU,i2,j PLUS DUG TIMES NI,pE2 TIMES AN,iBUR
gI,h GUNU,iTIMES TAK4,hG,i4,j OVER SIG4 SHU2,hK2,hLA3,gU,h OVER SU,hD,i2,hHUR,hM,iASH,hR,i9,fTA
h ASTERISK,iGUNU,iTIMES HI,oMI,hB,i OVER TAB NI OVER NI DISH OVER DISH,jSQUARED,hG,i TIMES BI,pGUD
pSHE,rU,pTUG2,pUD,hK4,j PLUS SAG,hR,gE,h GUNU,gI,h TENU,h2,hL,hR,i OVER TIR
r GAD OVER GAD GAR OVER GAR,jTIMES TAK4,gU,hG2,hK,hM,i TIMES GAN2 TENU,pTHREE DISH,hR
i OVER TUR ZA OVER ZA,fU,g GUD,hOVER U PA OVER PA GAR OVER GAR,oSUR OVER SUR
oU REVERSED OVER U REVERSED,hU,i U,g2,gB,gD,h GUNU,iKUSHU2,iSHESHIG,p TIMES BAD,iTIMES BAD,oMI
oU PLUS U PLUS U,zUS U GUNU,hUG,gM,h TIMES LAGAB,oME,q PLUS DA,oSHA3,oU,hBIN,hUM,j TIMES KASKAL,qPA
gN,h GUNU,gR,h CROSSING UR,iSHESHIG,h2,i INVERTED,jTIMES A PLUS HA,wNA,qL,pHA,pNUN,pU2,r PLUS ASH
xBI,qD,h4,hI,i3,hU,i TIMES A,qSHGAB,pBAR,pDARA3,qUN,pGA,rL,rN2 TENU,rR,qU,pHA,pIGI,qM,qSH,pKI
pLAK-668,qU3,rM,pMIN,pPA,pSHE,qIG4,pTU,pU PLUS GUD,qD,qRUDA,iDA,k TIMES U,gSH,i TIMES A,pKU,rR,pTAK4
i2,iUMX,iX,gTUKI,gZ3,i TIMES KASKAL,hU,fZA,h SQUARED TIMES KUR,iTENU,h7,hG,hMX,gE2,gI,h OVER ZI,h3
hB,i KABA TENU,hG,hZ2,gU,h OVER ZU PLUS SAR,h5,i TIMES A,pTHREE DISH TENU,hBUR,hM,2P ON BLACK SQUARE
4WITH STRAW,3CAKE,3IDO,2RLING STONE,4Y BRACKET EXTENSION,6LOGICAL AND,eOR,8OP,3RENCY EXCHANGE,9SIGN
4Y AND RICE,3VED STEM PARAGRAPH SIGN ORNAMENT,2STARD,4OMS,2T OF MEAT,1YCLONE,2LINDRICITY
2PRIOT SYLLABLE A,hE,hI,hJA,iO,hKA,iE,iI,iO,iU,hLA,iE,iI,iO,iU,hMA,iE,iI,iO,iU,hNA,iE,iI,iO,iU,hO
hPA,iE,iI,iO,iU,hRA,iE,iI,iO,iU,hSA,iE,iI,iO,iU,hTA,iE,iI,iO,iU,hU,hWA,iE,iI,iO,hXA,iE,hZA,iO
4O-MINOAN SIGN CM001,m2,m4,m5,m6,m7,m8,m9,l10,m1,m2,nB,m3,m5,m7,m9,l21,m3,m4,m5,m6,m7,m8,m9,l30,m3
m4,m5,m6,m7,m8,m9,l40,m1,m4,m6,m7,m9,l50,m1,m2,m3,m4,m5,m6,m8,m9,l60,m1,m2,m3,m4,m6,m7,m8,m9,l70,m1
m2,m3,m4,m5,nB,m6,m8,m9,l80,m1,m2,m3,m4,m5,m6,m7,m8,m9,l90,m1,m2,m4,m5,m6,m7,m8,m9,k100,m1,m2,m3,m4
m5,m7,m8,m9,l10,m2,m4,k301,m2,2RILLIC CAPITAL LETTER A,p WITH BREVE,vDIAERESIS,pBKHASIAN CHE
zHE WITH DESCENDER,yDZE,yHA,pLEUT KA,oBARRED O,w WITH DIAERESIS,qSHKIR KA,pE,pIG YUS,qNOCULAR O
pLENDED YUS,pROAD OMEGA,pYELORUSSIAN-UKRAINIAN I,oCCHE,pHE,r WITH DESCENDER,yIAERESIS
xVERTICAL STROKE,pLOSED LITTLE YUS,pROSSED O,oDCHE,pE,pJE,rRV,pOUBLE MONOCULAR O,vO,pWE,pZE,rLO,qHE
qWE,qZE,rHE,oE,p WITH DIAERESIS,pF,pL,q WITH DESCENDER,wHOOK,wMIDDLE HOOK,wTAIL,pM,q WITH TAIL,pN
q WITH DESCENDER,wHOOK,wLEFT HOOK,wMIDDLE HOOK,wTAIL,pR,q WITH TICK,pS,q WITH DESCENDER,oFITA,oGHE
r WITH DESCENDER,xMIDDLE HOOK,xSTROKE,zROKE AND HOOK,xUPTURN,pJE,oHA,q WITH DESCENDER,wHOOK,wSTROKE
qRD SIGN,pWE,oI,p WITH DIAERESIS,vGRAVE,vMACRON,pE,q WITH BREVE,wGRAVE,pO,qTA,rIFIED A,xBIG YUS
xCLOSED LITTLE YUS,xE,xLITTLE YUS,xYAT,pZHITSA,v WITH DOUBLE GRAVE ACCENT,oJE,oKA,q WITH DESCENDER
wHOOK,wSTROKE,wVERTICAL STROKE,pHAKASSIAN CHE,pJE,pOMI DE,uJE,uZJE,tLJE,tNJE,tSJE,tTJE,tZJE,qPPA,pSI
oLHA,pITTLE YUS,pJE,oMONOCULAR O,sGRAPH UK,oNEUTRAL YER,pJE,oO,p WITH DIAERESIS,pMEGA,t WITH TITLO
pT,oPE,q WITH DESCENDER,wMIDDLE HOOK,pSI,oQA,oREVERSED DZE,xTSE,xYU,xZE,pHA,pOUND OMEGA,oSCHWA
t WITH DIAERESIS,pEMISOFT SIGN,pHA,qCHA,qHA,s WITH DESCENDER,qORT I,v WITH TAIL,uU,qWE,pOFT DE,tEL
uM,tSIGN,pTRAIGHT U,y WITH STROKE,oTCHE,pE,q WITH DESCENDER,wMIDDLE HOOK,pSE,qHE,qSE,qWE,pWE,oU
p WITH DIAERESIS,wOUBLE ACUTE,vMACRON,pK,qRAINIAN IE,oVE,oWE,oYA,qE,qT,pERU,s WITH BACK YER
yDIAERESIS,pI,pN,pU,oZE,q WITH DESCENDER,xIAERESIS,qMLYA,pHE,r WITH BREVE,xDESCENDER,yIAERESIS,qWE
iIGATURE A IE,qEN GHE,qTE TSE,9KAVYKA,9LETTER MULTIOCULAR O,gPALOCHKA,gSMALL CAPITAL EL,9PAYEROK
9SMALL LETTER A,n WITH BREVE,tDIAERESIS,nBKHASIAN CHE,z WITH DESCENDER,wDZE,wHA,nLEUT KA,mBARRED O
u WITH DIAERESIS,oSHKIR KA,nE,nIG YUS,oNOCULAR O,nLENDED YUS,nROAD OMEGA,nYELORUSSIAN-UKRAINIAN I
mCCHE,nHE,p WITH DESCENDER,wIAERESIS,vVERTICAL STROKE,nLOSED LITTLE YUS,nROSSED O,mDCHE,nE,nJE,pRV
nOUBLE MONOCULAR O,tO,nWE,nZE,pLO,oHE,oWE,oZE,pHE,mE,n WITH DIAERESIS,nF,nL,o WITH DESCENDER,uHOOK
uMIDDLE HOOK,uTAIL,nM,o WITH TAIL,nN,o WITH DESCENDER,uHOOK,uLEFT HOOK,uMIDDLE HOOK,uTAIL,nR
o WITH TICK,nS,o WITH DESCENDER,mFITA,mGHE,p WITH DESCENDER,vMIDDLE HOOK,vSTROKE,zKE AND HOOK
vUPTURN,nJE,mHA,o WITH DESCENDER,uHOOK,uSTROKE,oRD SIGN,nWE,mI,n WITH DIAERESIS,tGRAVE,tMACRON,nE
o WITH BREVE,uGRAVE,nO,oTA,pIFIED A,vBIG YUS,vCLOSED LITTLE YUS,vE,vLITTLE YUS,vYAT,nZHITSA
t WITH DOUBLE GRAVE ACCENT,mJE,mKA,o WITH DESCENDER,uHOOK,uSTROKE,uVERTICAL STROKE,nHAKASSIAN CHE
nJE,nOMI DE,sJE,sZJE,rLJE,rNJE,rSJE,rTJE,rZJE,oPPA,nSI,mLHA,nITTLE YUS,nJE,nONG-LEGGED DE
mMONOCULAR O,qGRAPH UK,mNARROW O,nEUTRAL YER,nJE,mO,n WITH DIAERESIS,nMEGA,r WITH TITLO,nT,mPALOCHKA
nE,o WITH DESCENDER,uMIDDLE HOOK,nSI,mQA,mREVERSED DZE,vTSE,vYU,vZE,nHA,nOUND OMEGA,rED VE,mSCHWA
r WITH DIAERESIS,nEMISOFT SIGN,nHA,oCHA,oHA,q WITH DESCENDER,oORT I,t WITH TAIL,sU,oWE,nOFT DE,rEL
sM,rSIGN,nTRAIGHT U,w WITH STROKE,mTALL HARD SIGN,rTE,rYAT,nCHE,nE,o WITH DESCENDER,uMIDDLE HOOK
nHREE-LEGGED TE,nSE,oHE,oSE,oWE,nWE,mU,n WITH DIAERESIS,uOUBLE ACUTE,tMACRON,nK,oRAINIAN IE
nNBLENDED UK,mVE,mWE,nIDE ES,mYA,oE,oT,nERU,q WITH BACK YER,wDIAERESIS,nI,nN,nU,mZE,o WITH DESCENDER
vIAERESIS,oMLYA,nHE,p WITH BREVE,vDESCENDER,wIAERESIS,oWE,gIGATURE A IE,oEN GHE,oTE TSE
9THOUSANDS SIGN,0DAGGER,6 KNIFE,7WITH LEFT GUARD,cRIGHT GUARD,2LET SYMBOL,2NCER,3GO,2RK SHADE
6UNGLASSES,2SH SYMBOL,5WITH LEFT UPTURN,4ED LOW LINE,7OVERLINE,7TRIANGLE-HEADED RIGHTWARDS ARROW
2TA LINK ESCAPE,1C1,22,23,24,2S,1EAF PERSON,2CIDUOUS TREE,4MAL EXPONENT SYMBOL,8SEPARATOR KEY SYMBOL
3REASE FONT SIZE SYMBOL,2ER,2GREE CELSIUS,7FAHRENHEIT,7SIGN,2L,3ETE,3IVERY TRUCK,3TA EQUAL TO
2NTISTRY SYMBOL LIGHT DOWN AND HORIZONTAL,zIZONTAL WITH CIRCLE,zIZONTAL WITH TRIANGLE
zIZONTAL WITH WAVE,nUP AND HORIZONTAL,zONTAL WITH CIRCLE,zONTAL WITH TRIANGLE,zONTAL WITH WAVE
nVERTICAL AND BOTTOM LEFT,z BOTTOM RIGHT,z TOP LEFT,z TOP RIGHT,z WAVE,wWITH CIRCLE,zH TRIANGLE
2PARTMENT STORE,2RELICT HOUSE BUILDING,2SCENDING NODE,3ERET CAPITAL LETTER AY,nBEE,nCHEE,nDEE,nEF,oL
oM,oN,pG,oR,oS,pH,oTH,oW,nGAY,nH,nJEE,nKAY,nLONG A,tH,sE,sI,sO,tO,nOI,oW,nPEE,nSHORT A,uH,tE,tI,tO
uO,nTEE,oHEE,nVEE,nWU,nYEE,nZEE,oHEE,8SMALL LETTER AY,lBEE,lCHEE,lDEE,lEF,mL,mM,mN,nG,mR,mS,nH,mTH
mW,lGAY,lH,lJEE,lKAY,lLONG A,rH,qE,qI,qO,rO,lOI,mW,lPEE,lSHORT A,sH,rE,rI,rO,sO,lTEE,mHEE,lVEE,lWU
lYEE,lZEE,mHEE,5T,6 ISLAND,3KTOP COMPUTER,8WINDOW,2VANAGARI ABBREVIATION SIGN,cCUTE ACCENT,bCARET
bDANDA,cIGIT EIGHT,hFIVE,iOUR,hNINE,hONE,hSEVEN,iIX,hTHREE,iWO,hZERO,cOUBLE DANDA,bGAP FILLER
cRAVE ACCENT,bHEADSTROKE,bJAIN OM,bLETTER A,jA,jI,jU,jW,jY,iBA,jBA,jHA,iCA,kNDRA A,pE,pO,jHA,iDA,jDA
kDA,lHA,kHA,jHA,iE,iFA,iGA,jGA,jHA,kHA,jLOTTAL STOP,iHA,jEAVY YA,iI,jI,iJA,jHA,jJA,iKA,jHA,kHA,iLA
jLA,kLA,iMA,kRWARI DDA,iNA,jGA,jNA,kNA,jYA,iO,jE,jOE,iPA,jHA,iQA,iRA,jHA,jRA,iSA,jHA,kORT A,oE,oO
jSA,iTA,jHA,jTA,kHA,iU,jE,jU,kE,iVA,jOCALIC L,rL,qR,rR,iYA,jYA,iZA,jHA,bOM,bSIGN ANUSVARA,hVAGRAHA
gCANDRABINDU,r AVAGRAHA,sTHREE,tWO,sVIRAMA,gDOUBLE CANDRABINDU VIRAMA,gHIGH SPACING DOT
gINVERTED CANDRABINDU,gNUKTA,gPUSHPIKA,gSIDDHAM,hPACING CANDRABINDU,gVIRAMA,iSARGA
cTRESS SIGN ANUDATTA,nUDATTA,bVOWEL SIGN AA,nI,nU,nW,nY,mCANDRA E,tLONG E,tO,mE,mI,nI,mO,nE,nOE
mPRISHTHAMATRA E,mSHORT E,sO,mU,nE,nU,oE,mVOCALIC L,vL,uR,vR,3ICE CONTROL FOUR,fONE,fSTRING,fTHREE
gWO,1IAERESIS,3METER SIGN,4OND OPERATOR,8SHAPE WITH A DOT INSIDE,8TARGET,8WITH BOTTOM HALF BLACK
dLEFT HALF BLACK,dRIGHT HALF BLACK,dTOP HALF BLACK,2E FACE-1,92,93,94,95,96,3SEL LOCOMOTIVE
2FFERENCE BETWEEN,2GIT EIGHT,b COMMA,cFULL STOP,6FIVE,a COMMA,bFULL STOP,7OUR,a COMMA,bFULL STOP
6NINE,a COMMA,bFULL STOP,6ONE,9 COMMA,aFULL STOP,6SEVEN,b COMMA,cFULL STOP,7IX,9 COMMA,aFULL STOP
6THREE,b COMMA,cFULL STOP,7WO,9 COMMA,aFULL STOP,6ZERO,a COMMA,bFULL STOP,3RAM FOR EARTH,gLY HEAVEN
kUMAN,bGREATER YANG,kIN,bHEAVENLY EARTH,cUMAN EARTH,bLESSER YANG,jIN,2MENSION ORIGIN
2NGBAT CIRCLED SANS-SERIF DIGIT EIGHT,xFIVE,yOUR,xNINE,xONE,xSEVEN,yIX,xTHREE,yWO,xZERO,rNUMBER TEN
8NEGATIVE CIRCLED DIGIT EIGHT,vFIVE,wOUR,vNINE,vONE,vSEVEN,wIX,vTHREE,wWO,pNUMBER TEN
pSANS-SERIF DIGIT EIGHT,z DIGIT FIVE,z DIGIT FOUR,z DIGIT NINE,z DIGIT ONE,z DIGIT SEVEN,z DIGIT SIX
z DIGIT THREE,z DIGIT TWO,z DIGIT ZERO,z NUMBER TEN,2RECT CURRENT SYMBOL FORM TWO,7HIT,2SABLED CAR
4PPOINTED BUT RELIEVED FACE,dFACE,3CONTINUOUS UNDERLINE SYMBOL,3GUISED FACE,2TTO MARK
2VES AKURU DIGIT EIGHT,iFIVE,jOUR,iNINE,iONE,iSEVEN,jIX,iTHREE,jWO,iZERO,dOUBLE DANDA
cEND OF TEXT MARK,cGAP FILLER,cINITIAL RA,cLETTER A,kA,jBA,kHA,jCA,kHA,jDA,kDA,lHA,kHA,jE,jGA,kHA
jHA,jI,kI,jJA,jKA,kHA,jLA,kLA,jMA,jNA,kGA,kNA,kYA,jO,jPA,kHA,jRA,jSA,kHA,kSA,jTA,kHA,kTA,jU,kU,jVA
jYA,kYA,jZA,cMEDIAL RA,jYA,cPREFIXED NASAL SIGN,cSIGN ANUSVARA,hCANDRABINDU,hHALANTA,hNUKTA,cVIRAMA
dOWEL SIGN AA,oI,nE,nI,oI,nO,nU,oU,3IDES,4NG MASK,4SION SIGN,aLASH,9TIMES,3ORCE SYMBOL,2YA LAMP
2ZZY FACE,6SYMBOL,1LE,1NA DOUBLE HELIX,1O NOT LITTER SYMBOL,2CUMENT,8 WITH PICTURE,eTEXT
i AND PICTURE,2DO,2ES NOT CONTAIN AS MEMBER,kNORMAL SUBGROUP,z OR EQUAL,9DIVIDE
f WITH REVERSED NEGATION SLASH,9FORCE,9PRECEDE,g OR EQUAL,bOVE,9SUCCEED,g OR EQUAL,2G,3 FACE
3RA ABBREVIATION SIGN,6LETTER A,eA,eI,eU,dBA,eHA,dCA,eHA,dDA,eDA,fHA,eHA,dE,dGA,eHA,dHA,dI,eI,dJA
eHA,dKA,eHA,dLA,dMA,dNA,eGA,eNA,eYA,dO,dPA,eHA,dRA,eRA,dSA,eHA,eSA,dTA,eHA,eTA,fHA,dU,eU,dVA,dYA
6SIGN ANUSVARA,bNUKTA,bVIRAMA,dSARGA,6VOWEL SIGN AA,iI,iU,hE,hI,iI,hO,hU,iU,hVOCALIC R,qR,2LLAR SIGN
3PHIN,2MINO TILE HORIZONTAL BACK,m-00-00,r1,r2,r3,r4,r5,r6,o1-00,r1,r2,r3,r4,r5,r6,o2-00,r1,r2,r3,r4
r5,r6,o3-00,r1,r2,r3,r4,r5,r6,o4-00,r1,r2,r3,r4,r5,r6,o5-00,r1,r2,r3,r4,r5,r6,o6-00,r1,r2,r3,r4,r5
r6,cVERTICAL BACK,k-00-00,p1,p2,p3,p4,p5,p6,m1-00,p1,p2,p3,p4,p5,p6,m2-00,p1,p2,p3,p4,p5,p6,m3-00,p1
p2,p3,p4,p5,p6,m4-00,p1,p2,p3,p4,p5,p6,m5-00,p1,p2,p3,p4,p5,p6,m6-00,p1,p2,p3,p4,p5,p6,2NG SIGN,2OR
2T ABOVE,4MINUS,4OPERATOR,4PLUS,3TED CIRCLE,8ROSS,7FENCE,7LINE FACE,7OBELOS,7RIGHT-POINTING ANGLE
7SOLIDUS,8QUARE,7TRANSPOSITION MARKER,2UBLE ACUTE ACCENT,7CIRCLED DIGIT EIGHT,lFIVE,mOUR,lNINE,lONE
lSEVEN,mIX,lTHREE,mWO,fNUMBER TEN,8OLON EQUAL,8URLY LOOP,7DAGGER,8OWN TACK,7EXCLAMATION MARK
7HIGH-REVERSED-9 QUOTATION MARK,8YPHEN,7INTEGRAL,bRSECTION,7LEFT ARC GREATER-THAN BRACKET
8OGICAL AND,fOR,9W LINE,a-9 QUOTATION MARK,bREVERSED-9 QUOTATION MARK,7NESTED GREATER-THAN
eLESS-THAN,n WITH UNDERBAR,7OBLIQUE HYPHEN,7PLUS,8RECEDES,9IME,c QUOTATION MARK,7QUESTION MARK
7RIGHT ARC LESS-THAN BRACKET,7SOLIDUS OPERATOR,8QUARE INTERSECTION,eUNION,8TACKED COMMA
9ROKE NOT SIGN,8UBSET,9CCEEDS,9PERSET,9SPENSION MARK,7UNION,8P TACK,7VERTICAL BAR
j DOUBLE LEFT TURNSTILE,rRIGHT TURNSTILE,kLEFT TURNSTILE,gLINE,7WAVY OVERLINE,6-ENDED MULTIMAP
7LINE EQUAL TO OR GREATER-THAN,oLESS-THAN,cSLANTED EQUAL TO OR GREATER-THAN,wLESS-THAN
kGREATER-THAN OR EQUAL TO,kLESS-THAN OR EQUAL TO,7STRUCK CAPITAL C,mGAMMA,mH,mN,mP,nI,mQ,mR,mZ
eITALIC CAPITAL D,lSMALL D,rE,rI,rJ,eN-ARY SUMMATION,eSMALL GAMMA,kPI,6D FEMALE SIGN,8MALE SIGN
8SYMBOL,3GHNUT,2VE OF PEACE,2WN ARROWHEAD,5FISH TAIL,5RIGHT DIAGONAL ELLIPSIS,5TACK
9 WITH CIRCLE BELOW,4-POINTING RED TRIANGLE,eSMALL RED TRIANGLE,eTRIANGLE WITH LEFT HALF BLACK
sRIGHT HALF BLACK,4WARD FACING HOOK,k WITH DOT,gNOTCHED HOOK,s WITH DOT,8S ANCORA,bRROW
f AND RIGHT ONE EIGHTH BLOCK,gFROM BAR,gLEFTWARDS OF UPWARDS ARROW,gTO BAR,gWITH CORNER LEFTWARDS
lDOUBLE STROKE,lEQUILATERAL ARROWHEAD,lHORIZONTAL STROKE,lLARGE TRIANGLE ARROWHEAD
lMEDIUM TRIANGLE ARROWHEAD,lNOTCHED TAIL,lSMALL EQUILATERAL ARROWHEAD,rTRIANGLE ARROWHEAD
lTIP LEFTWARDS,pRIGHTWARDS,aBLACK ARROW,gCIRCLED WHITE ARROW,aCOMPRESSED ARROW,aDASHED ARROW
bOUBLE ARROW,aFINGER-POST ARROW,aHARPOON WITH BARB LEFT BESIDE DOWNWARDS HARPOON WITH BARB RIGHT
zSIDE UPWARDS HARPOON WITH BARB RIGHT,xFROM BAR,xTO BAR,wWARDS,sRIGHT FROM BAR,yTO BAR,xWARDS
bEAVY ARROW,gCOMPRESSED ARROW,aPAIRED ARROWS,aQUADRUPLE ARROW,aROCKET,aSANS-SERIF ARROW
bQUARED ARROW,aTRIANGLE ARROWHEAD,i-HEADED ARROW,v LEFTWARDS OF UPWARDS TRIANGLE-HEADED ARROW
wTO BAR,wWITH BOLD SHAFT,zH DOUBLE HORIZONTAL STROKE,zH HEAVY SHAFT,zH LONG TIP LEFTWARDS
zH LONG TIP RIGHTWARDS,zH MEDIUM SHAFT,zH NARROW SHAFT,zH VERY HEAVY SHAFT,qDASHED ARROW
qPAIRED ARROWS,qZIGZAG ARROW,dPLE ARROW,bWO HEADED ARROW,d-HEADED ARROW WITH TRIANGLE ARROWHEADS
aWHITE ARROW,l WITHIN TRIANGLE ARROWHEAD,aZIGZAG ARROW,1RACHMA SIGN,3FTING POINT RIGHTWARDS ARROW
3GON,6 FACE,2ESS,2IVE SLOW SIGN,2OMEDARY CAMEL,3OLING FACE,3P OF BLOOD,4LET,2UM WITH DRUMSTICKS,1UCK
2MPLING,2PLOYAN AFFIX ATTACHED E HOOK,oI HOOK,oLEFT-TO-RIGHT SECANT,oSECANT,oTAIL,qNGENT,v HOOK
fHIGH ACUTE,kCIRCLE,kDOT,kGRAVE,kLINE,lONG GRAVE,kTIGHT ACUTE,kVERTICAL,s SECANT,kWAVE
fLEFT HORIZONTAL SECANT,gOW ACUTE,kRROW,jCIRCLE,jDOT,jGRAVE,jLINE,kONG GRAVE,jTIGHT ACUTE,jVERTICAL
r SECANT,jWAVE,fMID HORIZONTAL SECANT,jVERTICAL SECANT,fRIGHT HORIZONTAL SECANT,9DOUBLE MARK
9LETTER A,hOU,gB,gD,h S,hH,gE,hE,hU,gF,h N,gG,h R S,gH,hL,gI,hE,gJ,h M,j S,iN,j S,iS,j WITH DOT
iWITH DOT,qS INSIDE AND ABOVE,gK,h M,iR S,hK,gL,hH,hONG I,lU,gM,h N,j S,iS,iWITH DOT,gN,h M,j S,iS
iWITH DOT,hASAL A,mI,mO,mU,gO,hA,hOH,hU,hW,gP,h N,hERNIN AM,oN,gR,h S,hH,hOMANIAN I,pU,gS,h J,j S,iK
j R,iM,iN,iP,j R,iS,iT,j R,iWITH DOT,q BELOW,hHORT I,hLOAN AN,mDH,mEE,nH,nN,mJ,mON,nW,mU,gT,h R S,iS
hH,gU,h N,hH,hI,gV,hOCALIC M,gW,h R,hA,hEI,hH,hI,hO,iW,gX,hW,gYE,9PUNCTUATION CHINOOK FULL STOP
9SIGN O WITH CROSS,9THICK LETTER SELECTOR,1VD,0E-MAIL SYMBOL,1AGLE,2R,3 OF MAIZE,7RICE
4WITH HEARING AID,3TH,5 GLOBE AMERICAS,dSIA-AUSTRALIA,cEUROPE-AFRICA,7ROUND,2ST SYRIAC CROSS
1DITORIAL CORONIS,1GG,2YPTIAN HIEROGLYPH A001,n2,n3,n4,n5,oA,n6,oA,oB,n7,n8,n9,m10,n1,n2,n3,n4,oA,n5
n6,n7,oA,n8,n9,m20,n1,n2,n3,n4,n5,n6,n7,n8,n9,m30,n1,n2,oA,n3,n4,n5,n6,n7,n8,n9,m40,oA,n1,n2,oA,n3
oA,n4,n5,oA,n6,n7,n8,n9,m50,n1,n2,n3,n4,n5,n6,n7,n8,n9,m60,n1,n2,n3,n4,n5,n6,n7,n8,n9,m70,lA001,o2
o3,o4,o5,o6,o7,pA,pB,o8,o9,n10,o1,o2,o3,o4,o5,o6,o7,o8,o9,n20,o1,o2,o3,o4,o5,o6,o7,o8,o9,n30,o1,o2
kB001,n2,n3,n4,n5,oA,n6,n7,n8,n9,lEGIN SEGMENT,kC001,n2,oA,oB,oC,n3,n4,n5,n6,n7,n8,n9,m10,oA,n1,n2
n3,n4,n5,n6,n7,n8,n9,m20,n1,n2,n3,n4,kD001,n2,n3,n4,n5,n6,n7,n8,oA,n9,m10,n1,n2,n3,n4,n5,n6,n7,n8,n9
m20,n1,n2,n3,n4,n5,n6,n7,oA,n8,n9,m30,n1,oA,n2,n3,n4,oA,n5,n6,n7,n8,n9,m40,n1,n2,n3,n4,n5,n6,oA,n7
n8,oA,n9,m50,oA,oB,oC,oD,oE,oF,oG,oH,oI,n1,n2,oA,n3,n4,oA,n5,n6,n7,n8,n9,m60,n1,n2,n3,n4,n5,n6,n7,oA
oB,oC,oD,oE,oF,oG,oH,kE001,n2,n3,n4,n5,n6,n7,n8,oA,n9,oA,m10,n1,n2,n3,n4,n5,n6,oA,n7,oA,n8,n9,m20,oA
n1,n2,n3,n4,n5,n6,n7,n8,oA,n9,m30,n1,n2,n3,n4,oA,n6,n7,n8,lND SEGMENT,kF001,oA,n2,n3,n4,n5,n6,n7,n8
n9,m10,n1,n2,n3,oA,n4,n5,n6,n7,n8,n9,m20,n1,oA,n2,n3,n4,n5,n6,n7,n8,n9,m30,n1,oA,n2,n3,n4,n5,n6,n7
oA,n8,oA,n9,m40,n1,n2,n3,n4,n5,oA,n6,oA,n7,oA,n8,n9,m50,n1,oA,oB,oC,n2,n3,kG001,n2,n3,n4,n5,n6,oA,n7
oA,oB,n8,n9,m10,n1,oA,n2,n3,n4,n5,n6,n7,n8,n9,m20,oA,n1,n2,n3,n4,n5,n6,oA,n7,n8,n9,m30,n1,n2,n3,n4
n5,n6,oA,n7,oA,n8,n9,m40,n1,n2,n3,oA,n4,n5,oA,n6,n7,n8,n9,m50,n1,n2,n3,n4,kH001,n2,n3,n4,n5,n6,oA,n7
n8,lORIZONTAL JOINER,kI001,n2,n3,n4,n5,oA,n6,n7,n8,n9,oA,m10,oA,n1,oA,n2,n3,n4,n5
lNSERT AT BOTTOM END,zM START,uTOP END,ySTART,kK001,n2,n3,n4,n5,n6,n7,n8,kL001,n2,oA,n3,n4,n5,n6,oA
n7,n8,kM001,oA,oB,n2,n3,oA,n4,n5,n6,n7,n8,n9,m10,oA,n1,n2,oA,oB,oC,oD,oE,oF,oG,oH,n3,n4,n5,oA,n6,oA
n7,oA,n8,n9,m20,n1,n2,oA,n3,n4,oA,n5,n6,n7,n8,oA,n9,m30,n1,oA,n2,n3,oA,oB,n4,n5,n6,n7,n8,n9,m40,oA
n1,n2,n3,n4,kN001,n2,n3,n4,n5,n6,n7,n8,n9,m10,n1,n2,n3,n4,n5,n6,n7,n8,oA,oB,n9,m20,n1,n2,n3,n4,n5,oA
n6,n7,n8,n9,m30,n1,n2,n3,oA,n4,oA,n5,oA,n6,n7,oA,n8,n9,m40,n1,n2,lL001,o2,o3,o4,o5,pA,o6,o7,o8,o9
n10,o1,o2,o3,o4,o5,o6,o7,pA,o8,o9,n20,lU001,o2,o3,o4,o5,o6,o7,o8,o9,n10,pA,o1,pA,o2,o3,o4,o5,o6,o7
o8,pA,o9,n20,o1,o2,pA,kO001,oA,n2,n3,n4,n5,oA,n6,oA,oB,oC,oD,oE,oF,n7,n8,n9,m10,oA,oB,oC,n1,n2,n3,n4
n5,n6,n7,n8,n9,oA,m20,oA,n1,n2,n3,n4,oA,n5,oA,n6,n7,n8,n9,oA,m30,oA,n1,n2,n3,oA,n4,n5,n6,oA,oB,oC,oD
n7,n8,n9,m40,n1,n2,n3,n4,n5,n6,n7,n8,n9,m50,oA,oB,n1,lVERLAY MIDDLE,kP001,oA,n2,n3,oA,n4,n5,n6,n7,n8
n9,m10,n1,kQ001,n2,n3,n4,n5,n6,n7,kR001,n2,oA,n3,oA,oB,n4,n5,n6,n7,n8,n9,m10,oA,n1,n2,n3,n4,n5,n6,oA
n7,n8,n9,m20,n1,n2,n3,n4,n5,n6,n7,n8,n9,kS001,n2,oA,n3,n4,n5,n6,oA,n7,n8,n9,m10,n1,n2,n3,n4,oA,oB,n5
n6,n7,oA,n8,n9,m20,n1,n2,n3,n4,n5,n6,oA,oB,n7,n8,n9,m30,n1,n2,n3,n4,n5,oA,n6,n7,n8,n9,m40,n1,n2,n3
n4,n5,n6,kT001,n2,n3,oA,n4,n5,n6,n7,oA,n8,oA,n9,oA,m10,n1,oA,n2,n3,n4,n5,n6,oA,n7,n8,n9,m20,n1,n2,n3
n4,n5,n6,n7,n8,n9,m30,n1,n2,oA,n3,oA,n4,n5,n6,kU001,n2,n3,n4,n5,n6,oA,oB,n7,n8,n9,m10,n1,n2,n3,n4,n5
n6,n7,n8,n9,m20,n1,n2,n3,oA,n4,n5,n6,n7,n8,n9,oA,m30,n1,n2,oA,n3,n4,n5,n6,n7,n8,n9,m40,n1,n2,kV001
oA,oB,oC,oD,oE,oF,oG,oH,oI,n2,oA,n3,n4,n5,n6,n7,oA,oB,n8,n9,m10,n1,oA,oB,oC,n2,oA,oB,n3,n4,n5,n6,n7
n8,n9,m20,oA,oB,oC,oD,oE,oF,oG,oH,oI,oJ,oK,oL,n1,n2,n3,oA,n4,n5,n6,n7,n8,oA,n9,oA,m30,oA,n1,oA,n2,n3
oA,n4,n5,n6,n7,oA,n8,n9,m40,oA,lERTICAL JOINER,kW001,n2,n3,oA,n4,n5,n6,n7,n8,n9,oA,m10,oA,n1,n2,n3
n4,oA,n5,n6,n7,oA,n8,oA,n9,m20,n1,n2,n3,n4,oA,n5,kX001,n2,n3,n4,oA,oB,n5,n6,oA,n7,n8,oA,kY001,oA,n2
n3,n4,n5,n6,n7,n8,kZ001,n2,oA,oB,oC,oD,n3,oA,oB,n4,oA,n5,oA,n6,n7,n8,n9,m10,n1,n2,n3,n4,n5,oA,oB,oC
oD,oE,oF,oG,oH,oI,n6,oA,oB,oC,oD,oE,oF,oG,oH,1IGHT PETALLED OUTLINED BLACK FLORETTE
7OINTED BLACK STAR,ePINWHEEL STAR,eRECTILINEAR BLACK STAR,6SPOKED ASTERISK
6TEARDROP-SPOKED PROPELLER ASTERISK,5H NOTE,1JECT SYMBOL,1LBASAN LETTER A,fBE,fCE,gHE,fDE,gHE,fE,gI
fFE,fGE,gHAMMA,hE,gJE,fHE,fI,fJE,fKE,gHE,fLE,gLE,fME,fNA,gDE,gE,gJE,fO,fPE,fQE,fRE,gRE,fSE,gHE,fTE
gHE,fU,fVE,fXE,fY,fZE,gHE,2ECTRIC ARROW,9LIGHT BULB,9PLUG,9TORCH,8AL INTERSECTION,3MENT OF
a OPENING DOWNWARDS,jUPWARDS,bWITH DOT ABOVE,gLONG HORIZONTAL STROKE,gOVERBAR
gTWO HORIZONTAL STROKES,gUNDERBAR,gVERTICAL BAR AT END OF HORIZONTAL STROKE,3PHANT,3VATOR,2F
2YMAIC LETTER ALEPH,gYIN,fBETH,fDALETH,fGIMEL,fHE,hTH,fKAPH,fLAMEDH,fMEM,fNUN,fPE,fQOPH,fRESH,fSADHE
hMEKH,gHIN,fTAW,gETH,fWAW,fYODH,fZAYIN,9IGATURE ZAYIN-YODH,1M DASH,3QUAD,3SPACE,2OJI COMPONENT BALD
gCURLY HAIR,gRED HAIR,gWHITE HAIR,6MODIFIER FITZPATRICK TYPE-1-2,w3,w4,w5,w6,2PHASIS SYMBOL
3TY DOCUMENT,6NEST,7OTE,a PAD,dGE,6PAGE,aS,6SET,9 WITH LEFT ARROW ABOVE,fOVERBAR,fRIGHT ARROW ABOVE
fSMALL CIRCLE ABOVE,1N DASH,3QUAD,3SPACE,2D OF GUARDED AREA,7LINE,7MEDIUM,7PROOF,aTECTED AREA
7SELECTED AREA,7TEXT,8RANSMISSION,j BLOCK,4WITH LEFTWARDS ARROW ABOVE,2Q,3UIRY,2TER SYMBOL,2VELOPE
8 WITH DOWNWARDS ARROW ABOVE,eLIGHTNING,1OL,2M,2T,1PA,1QUAL AND PARALLEL TO,6TO BY DEFINITION
9OR GREATER-THAN,cLESS-THAN,cPRECEDES,cSUCCEEDS,5S COLON,7SIGN,b ABOVE LEFTWARDS ARROW,iPLUS SIGN
iRIGHTWARDS ARROW,iTILDE OPERATOR,dND SLANTED PARALLEL,w WITH TILDE ABOVE,cWITH BUMPY ABOVE
hDOT BELOW,hINFINITY BELOW,hTWO DOTS ABOVE AND TWO DOTS BELOW,7WITH ASTERISK,3IANGULAR TO,4VALENT TO
bWITH FOUR DOTS ABOVE,1RASE TO THE LEFT,dRIGHT,2IS FORM ONE,aTWO,2ROR-BARRED BLACK CIRCLE,jDIAMOND
jSQUARE,dWHITE CIRCLE,jDIAMOND,jSQUARE,1SA,2C,3APE,2TIMATED SYMBOL,8S,1TB,2HIOPIC COLON
bMBINING GEMINATION AND VOWEL LENGTH MARK,uMARK,jVOWEL LENGTH MARK,cMA,9DIGIT EIGHT,fFIVE,gOUR,fNINE
fONE,fSEVEN,gIX,fTHREE,gWO,9FULL STOP,9NUMBER EIGHTY,gFIFTY,hORTY,gHUNDRED,gNINETY,gSEVENTY,hIXTY
gTEN,j THOUSAND,hHIRTY,hWENTY,9PARAGRAPH SEPARATOR,aREFACE COLON,9QUESTION MARK,9SECTION MARK
bMICOLON,aYLLABLE BA,kA,jBA,lA,kE,lE,kI,kO,kU,jE,kE,jI,jO,kA,jU,jWA,kE,lE,kI,iCA,kA,jCA,lA,kE,lE,kHA
mA,lE,mE,lHA,nA,mE,nE,mI,mO,mU,lI,lO,lU,kI,kO,kU,jE,kE,jHA,lA,kE,lE,kI,kO,lA,kU,kWA,jI,jO,kA,jU,jWA
iDA,kA,jDA,lA,kE,lE,kHAA,lE,mE,lI,lO,lU,kI,kO,lA,kU,kWA,jE,kE,jI,jO,kA,jU,jWA,jZAA,kE,lE,kI,kO,kU
iFA,kA,jE,kE,jI,jO,jU,jWA,kE,lE,kI,jYA,iGA,kA,jE,kE,jGA,lA,kE,lE,kI,kO,kU,kWA,mA,lE,mE,lI,jI
jLOTTAL A,rA,qE,rE,qI,qO,rA,qU,qWA,jO,kA,jU,kRAGE BWEE,rI,pFWEE,rI,pGWE,sE,rI,pHHWA,pKWE,sE,rI,pMWEE
rI,pPWEE,rI,pQWE,sE,rI,jWA,lA,kE,lE,kI,jYA,lA,kE,lE,kI,kO,kU,iHA,kA,jE,kE,jHA,lA,kE,lE,kI,kO,kU,kWA
lE,mE,lI,kYA,mA,lE,mE,lI,lO,lU,jI,jO,kA,jU,iJA,kA,jE,kE,jI,jO,kA,jU,jWA,iKA,kA,jE,kE,jI,jO,kA,jU,jWA
lA,kE,lE,kI,jXA,lA,kE,lE,kI,kO,kU,kWA,mA,lE,mE,lI,jYA,lA,kE,lE,kI,kO,kU,iLA,kA,jE,kE,jI,jO,kA,jU,jWA
iMA,kA,jE,kE,jI,jO,kA,jU,jWA,kE,lE,kI,jYA,iNA,kA,jE,kE,jI,jO,kA,jU,jWA,jYA,lA,kE,lE,kI,kO,lA,kU,kWA
iPA,kA,jE,kE,jHA,lA,lRYNGEAL A,uA,tE,uE,tI,tO,tU,kE,lE,kI,kO,lA,kU,kWA,jI,jO,kA,jU,jWA,kE,lE,kI,iQA
kA,jE,kE,jHA,lA,kE,lE,kI,kO,kU,kWA,mA,lE,mE,lI,jI,jO,kA,jU,jWA,lA,kE,lE,kI,jYA,lA,kE,lE,kI,kO,kU,iRA
kA,jE,kE,jI,jO,kA,jU,jWA,jYA,iSA,kA,jE,kBATBEIT BWA,sFWA,sMWA,sPWA,kE,jHA,lA,kE,lE,kI,kO,lA,kU,kWA
jI,jO,kA,jSA,lA,kE,lE,kI,kO,kU,jU,jWA,jZA,lA,kE,lE,kI,kO,kU,kWA,iTA,kA,jE,kE,jHA,lA,kE,lE,kI,kO,lA
kU,kWA,jI,jO,kA,jSA,lA,kE,lE,kI,kO,kU,kWA,jTHAA,lE,mE,lI,lO,lU,jU,jWA,jZA,lA,kE,lE,kI,kO,lA,kU,iVA
kA,jE,kE,jI,jO,jU,jWA,iWA,kA,jE,kE,jI,jO,kA,jU,iXA,kA,jE,kE,jI,jO,kA,jU,jWA,lA,kE,lE,kI,jYA,lA,kE,lE
kI,kO,kU,iYA,kA,jE,kE,jI,jO,kA,jU,iZA,kA,jE,kE,jHA,lA,kE,lE,kI,kO,kU,kWA,jI,jO,kA,jU,jWA,jZA,lA,kE
lE,kI,kO,kU,9TONAL MARK CHIRET,kDERET,p-HIDET,lIFAT,kHIDET,kKENAT,lURT,kRIKRIK,kSHORT RIKRIK,kYIZET
9WORDSPACE,2X,1ULER CONSTANT,2RO SIGN,4-CURRENCY SIGN,4PEAN CASTLE,9POST OFFICE,1VERGREEN TREE
1XCESS,3LAMATION MARK,cQUESTION MARK,2PRESSIONLESS FACE,2TENDED ARABIC-INDIC DIGIT EIGHT,sFIVE,tOUR
sNINE,sONE,sSEVEN,tIX,sTHREE,tWO,sZERO,3RATERRESTRIAL ALIEN,4EMELY HEAVY FIVE SPOKED ASTERISK
gGREEK CROSS,gSALTIRE,hIX SPOKED ASTERISK,gWHITE CIRCLE,mSQUARE,1YE,3GLASSES,3S
0FACE HOLDING BACK TEARS,5MASSAGE,5PALM,5SAVOURING DELICIOUS FOOD,6CREAMING IN FEAR,5THROWING A KISS
5WITH COLD SWEAT,cWBOY HAT,aDIAGONAL MOUTH,aFINGER COVERING CLOSED LIPS,aHEAD-BANDAGE
aLOOK OF TRIUMPH,aMEDICAL MASK,bONOCLE,aNO GOOD GESTURE,aOK GESTURE,bNE EYEBROW RAISED
bPEN EYES AND HAND OVER MOUTH,fMOUTH,k AND COLD SWEAT,lVOMITING,aPARTY HORN AND PARTY HAT
bEEKING EYE,bLEADING EYES,aROLLING EYES,aSTUCK-OUT TONGUE,q AND TIGHTLY-CLOSED EYES,vWINKING EYE
aTEARS OF JOY,bHERMOMETER,aUNEVEN EYES AND WAVY MOUTH,9OUT MOUTH,3SIMILE SIGN,3TORY,2IRY,2LAFEL
3LEN LEAF,4ING DIAGONAL CROSSING NORTH EAST ARROW,qRISING DIAGONAL,hIN WHITE CIRCLE IN BLACK SQUARE
2MILY,2RSI SYMBOL,2THER CHRISTMAS,2X ICON,4MACHINE,1EARFUL FACE,3THER,2MALE SIGN
3ININE ORDINAL INDICATOR,2NCER,2RRIS WHEEL,4Y,1F,1IELD HOCKEY STICK AND BALL,2GURE DASH,7SPACE
2LE CABINET,5FOLDER,5SEPARATOR,3M FRAMES,5PROJECTOR,2NITE PART INTEGRAL,2RE,4 ENGINE,6XTINGUISHER
4CRACKER,4WORK SPARKLER,8S,3ST PLACE MEDAL,6QUARTER MOON,i SYMBOL,jWITH FACE,6STRONG ISOLATE,2SH
4 CAKE WITH SWIRL DESIGN,4EYE,4ING POLE AND FISH,3TED HAND SIGN,2VE DOT MARK,9PUNCTUATION
1LAG IN HOLE,3MINGO,3T SHOE,4BREAD,4NESS,2EUR-DE-LIS,3XED BICEPS,2OPPY DISK,3RAL HEART,3WER
6 PLAYING CARDS,8UNCTUATION MARK,2USHED FACE,2Y,3ING DISC,7ENVELOPE,7SAUCER,1OG,3GY,2LDER,2NDUE,2OT
4PRINTS,2R ALL,3CES,3K AND KNIFE,e WITH PLATE,4ED PARAGRAPHOS,4ING,3M FEED,3TUNE COOKIE,2UNTAIN
3R BALLOON-SPOKED ASTERISK,5CLUB-SPOKED ASTERISK,6ORNER ARROWS CIRCLING ANTICLOCKWISE,5DOT MARK
9PUNCTUATION,5LEAF CLOVER,5POINTED BLACK STAR,5TEARDROP-SPOKED ASTERISK,4-PER-EM SPACE,4TH ROOT
2X FACE,1RACTION NUMERATOR ONE,9SLASH,3ME WITH AN X,bPICTURE,bTILES,2EEZING FACE,3NCH FRANC SIGN
9IES,2IED SHRIMP,2OG FACE,3NT-FACING BABY CHICK,6TILTED SHADOWED WHITE RIGHTWARDS ARROW,3WN
5ING FACE WITH OPEN MOUTH,1S,2I,1UEL PUMP,2LL BLOCK,5MOON SYMBOL,aWITH FACE,5OUTER JOIN,5STOP
4WIDTH AMPERSAND,bPOSTROPHE,bSTERISK,aBROKEN BAR,aCENT SIGN,bIRCUMFLEX ACCENT,bOLON,cMMA,eERCIAL AT
aDIGIT EIGHT,gFIVE,hOUR,gNINE,gONE,gSEVEN,hIX,gTHREE,hWO,gZERO,bOLLAR SIGN,aEQUALS SIGN
bXCLAMATION MARK,aFULL STOP,aGRAVE ACCENT,cEATER-THAN SIGN,aHYPHEN-MINUS,aLATIN CAPITAL LETTER A,vB
vC,vD,vE,vF,vG,vH,vI,vJ,vK,vL,vM,vN,vO,vP,vQ,vR,vS,vT,vU,vV,vW,vX,vY,vZ,gSMALL LETTER A,tB,tC,tD,tE
tF,tG,tH,tI,tJ,tK,tL,tM,tN,tO,tP,tQ,tR,tS,tT,tU,tV,tW,tX,tY,tZ,bEFT CURLY BRACKET,fPARENTHESIS
fSQUARE BRACKET,fWHITE PARENTHESIS,cSS-THAN SIGN,bOW LINE,aMACRON,aNOT SIGN,bUMBER SIGN
aPERCENT SIGN,bLUS SIGN,bOUND SIGN,aQUESTION MARK,cOTATION MARK,aREVERSE SOLIDUS,bIGHT CURLY BRACKET
gPARENTHESIS,gSQUARE BRACKET,gWHITE PARENTHESIS,aSEMICOLON,bOLIDUS,aTILDE,aVERTICAL LINE,aWON SIGN
aYEN SIGN,2NCTION APPLICATION,3ERAL URN,2SE,1VS1,32,33,34,0GAME DIE,2RLIC,1EAR,4 WITH HANDLES
9OUT HUB,2M STONE,3INI,2NIE,2OMETRIC PROPORTION,9ALLY EQUAL TO,hIVALENT TO,3RGIAN CAPITAL LETTER AEN
pN,oBAN,oCAN,pHAR,qIN,pIL,oDON,oEN,oGAN,pHAN,oHAE,qR,pE,pIE,pOE,oIN,oJHAN,pIL,oKAN,pHAR,oLAS,oMAN
oNAR,oON,oPAR,pHAR,oQAR,oRAE,oSAN,pHIN,oTAN,qR,oUN,oVIN,oWE,oXAN,oYN,oZEN,pHAR,9LETTER AEN,hIN,hN
gBAN,gCAN,hHAR,iIN,hIL,gDON,gELIFI,hN,gFI,gGAN,hHAN,gHAE,iR,jD SIGN,hE,hIE,hOE,gIN,gJHAN,hIL,gKAN
hHAR,gLABIAL SIGN,iS,gMAN,gNAR,gON,gPAR,hHAR,gQAR,gRAE,gSAN,hHIN,gTAN,iR,hURNED GAN,gUN,gVIN,gWE
gXAN,gYN,gZEN,hHAR,9MTAVRULI CAPITAL LETTER AEN,yIN,yN,xBAN,xCAN,yHAR,zIN,yIL,xDON,xELIFI,yN,xFI
xGAN,yHAN,xHAE,zR,zRD SIGN,yE,yIE,yOE,xIN,xJHAN,yIL,xKAN,yHAR,xLABIAL SIGN,zS,xMAN,xNAR,xON,xPAR
yHAR,xQAR,xRAE,xSAN,yHIN,xTAN,zR,yURNED GAN,xUN,xVIN,xWE,xXAN,xYN,xZEN,yHAR,9PARAGRAPH SEPARATOR
9SMALL LETTER AEN,nN,mBAN,mCAN,nHAR,oIN,nIL,mDON,mEN,mGAN,nHAN,mHAE,oR,nE,nIE,nOE,mIN,mJHAN,nIL,mKAN
nHAR,mLAS,mMAN,mNAR,mON,mPAR,nHAR,mQAR,mRAE,mSAN,nHIN,mTAN,oR,mUN,mVIN,mWE,mXAN,mYN,mZEN,nHAR
2RMAN PENNY SIGN,2TA MARK,1HOST,1IMEL SYMBOL,2RAFFE FACE,3L,4S SYMBOL,1LAGOLITIC CAPITAL LETTER AZU
qBIG YUS,rUKY,qCAUDATE CHRIVI,rHRIVI,qDJERVI,rOBRO,rZELO,qFITA,rRITU,qGLAGOLI,qHERU,qI,rNITIAL IZHE
rOTATED BIG YUS,ySMALL YUS,rZHE,tITSA,qKAKO,qLATINATE MYSLITE,rJUDIJE,qMYSLITE,qNASHI,qONU,rTU,qPE
rOKOJI,qRITSI,qSHA,sTA,uPIC,rLOVO,rMALL YUS,z WITH TAIL,rPIDERY HA,qTROKUTASTI A,rSI,rVRIDO,qUKU
qVEDE,qYATI,rERI,tU,sSTU,rO,rU,qZEMLJA,rHIVETE,bSMALL LETTER AZU,oBIG YUS,pUKY,oCAUDATE CHRIVI
pHRIVI,oDJERVI,pOBRO,pZELO,oFITA,pRITU,oGLAGOLI,oHERU,oI,pNITIAL IZHE,pOTATED BIG YUS,wSMALL YUS
pZHE,rITSA,oKAKO,oLATINATE MYSLITE,pJUDIJE,oMYSLITE,oNASHI,oONU,pTU,oPE,pOKOJI,oRITSI,oSHA,qTA,sPIC
pLOVO,pMALL YUS,x WITH TAIL,pPIDERY HA,oTROKUTASTI A,pSI,pVRIDO,oUKU,oVEDE,oYATI,pERI,rU,qSTU,pO,pU
oZEMLJA,pHIVETE,3SS OF MILK,2EICH STARK,2OBE WITH MERIDIANS,3VES,3WING STAR,1OAL NET,3T,2GGLES,2LFER
2RILLA,2THIC LETTER AHSA,fIHVUS,eBAIRKAN,eDAGS,eEIS,eFAIHU,eGIBA,eHAGL,fWAIR,eIGGWS,fUJA,eJER,eKUSMA
eLAGUS,eMANNA,eNAUTHS,fINE HUNDRED,iTY,eOTHAL,ePAIRTHRA,eQAIRTHRA,eRAIDA,eSAUIL,eTEIWS,fHIUTH,eURUS
eWINJA,1RADUATION CAP,3NTHA AU LENGTH MARK,8LETTER A,gA,gI,gU,fBA,gHA,fCA,gHA,fDA,gDA,hHA,gHA,fEE
fGA,gHA,fHA,fI,gI,fJA,gHA,fKA,gHA,fLA,gLA,fMA,fNA,gGA,gNA,gYA,fOO,fPA,gHA,fRA,fSA,gHA,gSA,fTA,gHA
gTA,hHA,fU,gU,fVA,gEDIC ANUSVARA,lDOUBLE ANUSVARA,gOCALIC L,oL,nR,oR,fYA,8OM,8SIGN ANUSVARA,eVAGRAHA
dCANDRABINDU,eOMBINING ANUSVARA ABOVE,dNUKTA,dPLUTA,dVIRAMA,fSARGA,8VOWEL SIGN AA,kI,kU,jEE,jI,kI
jOO,jU,kU,jVOCALIC L,sL,rR,sR,3PES,3VE ACCENT,2EATER-THAN ABOVE DOUBLE-LINE EQUAL ABOVE LESS-THAN
jLESS-THAN ABOVE DOUBLE-LINE EQUAL,jRIGHTWARDS ARROW,jSIMILAR ABOVE LESS-THAN,rOR EQUAL
kLANTED EQUAL ABOVE LESS-THAN ABOVE SLANTED EQUAL,eND NOT APPROXIMATE,hSINGLE-LINE NOT EQUAL TO
dBESIDE LESS-THAN,eUT NOT EQUAL TO,oIVALENT TO,dCLOSED BY CURVE,s ABOVE SLANTED EQUAL
dEQUAL TO OR LESS-THAN,dOR APPROXIMATE,gEQUAL TO,jIVALENT TO,gLESS-THAN,gSLANTED EQUAL TO
w WITH DOT ABOVE,zTH DOT ABOVE LEFT,zTH DOT INSIDE,eVER EQUAL TO,hLAPPING LESS-THAN,dSIGN
dWITH CIRCLE INSIDE,iDOT,iQUESTION MARK ABOVE,3EK ACROPHONIC ATTIC FIFTY,s STATERS,tTALENTS,uHOUSAND
zND STATERS,pVE,r HUNDRED,z STATERS,z TALENTS,sSTATERS,sTALENTS,tHOUSAND,zD TALENTS,nONE DRACHMA
rHALF,sUNDRED STATERS,zTALENTS,rQUARTER,rTHOUSAND STATERS,z TALENTS,nTEN MNAS,rSTATERS,rTALENTS
sHOUSAND STATERS,hCARYSTIAN FIVE HUNDRED,iYRENAIC TWO DRACHMAS,hDELPHIC FIVE MNAS
hEPIDAUREAN FIVE HUNDRED,sTWO,v DRACHMAS,hHERAEUM ONE PLETHRON,kMIONIAN FIFTY,sONE,sTEN
hMESSENIAN TEN,hNAXIAN FIVE HUNDRED,hSTRATIAN FIFTY MNAS,hTHESPIAN FIFTY,sVE HUNDRED,vTHOUSAND,qONE
t HUNDRED,uTHOUSAND,qTEN,rHIRTY,sREE HUNDRED,rWO,iROEZENIAN FIFTY,x ALTERNATE FORM,uVE,w HUNDRED
sTEN,v ALTERNATE FORM,7NO TELEIA,7ROURA SIGN,8TABE SIGN,6BETA SYMBOL
6CAPITAL DOTTED LUNATE SIGMA SYMBOL,eKAI SYMBOL,eLETTER ALPHA,q WITH DASIA,zIA AND OXIA
zIA AND OXIA AND PROSGEGRAMMENI,zIA AND PERISPOMENI,zIA AND PERISPOMENI AND PROSGEGRAMMENI
zIA AND PROSGEGRAMMENI,zIA AND VARIA,zIA AND VARIA AND PROSGEGRAMMENI,wMACRON,wOXIA,wPROSGEGRAMMENI
xSILI,zLI AND OXIA,zLI AND OXIA AND PROSGEGRAMMENI,zLI AND PERISPOMENI
zLI AND PERISPOMENI AND PROSGEGRAMMENI,zLI AND PROSGEGRAMMENI,zLI AND VARIA
zLI AND VARIA AND PROSGEGRAMMENI,wTONOS,wVARIA,xRACHY,mRCHAIC SAMPI,lBETA,lCHI,lDELTA,lEPSILON
s WITH DASIA,zASIA AND OXIA,zASIA AND VARIA,yOXIA,yPSILI,zSILI AND OXIA,zSILI AND VARIA,yTONOS
yVARIA,mTA,o WITH DASIA,z AND OXIA,z AND OXIA AND PROSGEGRAMMENI,z AND PERISPOMENI
z AND PERISPOMENI AND PROSGEGRAMMENI,z AND PROSGEGRAMMENI,z AND VARIA,z AND VARIA AND PROSGEGRAMMENI
uOXIA,uPROSGEGRAMMENI,vSILI,z AND OXIA,z AND OXIA AND PROSGEGRAMMENI,z AND PERISPOMENI
z AND PERISPOMENI AND PROSGEGRAMMENI,z AND PROSGEGRAMMENI,z AND VARIA,z AND VARIA AND PROSGEGRAMMENI
uTONOS,uVARIA,lGAMMA,lHETA,lIOTA,p WITH DASIA,zA AND OXIA,zA AND PERISPOMENI,zA AND VARIA,wIALYTIKA
vMACRON,vOXIA,vPSILI,zI AND OXIA,zI AND PERISPOMENI,zI AND VARIA,vTONOS,vVARIA,wRACHY,lKAPPA,lLAMDA
lMU,lNU,lOMEGA,q WITH DASIA,zIA AND OXIA,zIA AND OXIA AND PROSGEGRAMMENI,zIA AND PERISPOMENI
zIA AND PERISPOMENI AND PROSGEGRAMMENI,zIA AND PROSGEGRAMMENI,zIA AND VARIA
zIA AND VARIA AND PROSGEGRAMMENI,wOXIA,wPROSGEGRAMMENI,xSILI,zLI AND OXIA
zLI AND OXIA AND PROSGEGRAMMENI,zLI AND PERISPOMENI,zLI AND PERISPOMENI AND PROSGEGRAMMENI
zLI AND PROSGEGRAMMENI,zLI AND VARIA,zLI AND VARIA AND PROSGEGRAMMENI,wTONOS,wVARIA,nICRON
s WITH DASIA,zASIA AND OXIA,zASIA AND VARIA,yOXIA,yPSILI,zSILI AND OXIA,zSILI AND VARIA,yTONOS
yVARIA,lPAMPHYLIAN DIGAMMA,mHI,mI,mSI,lRHO,o WITH DASIA,lSAN,mHO,mIGMA,lTAU,mHETA,lUPSILON
s WITH DASIA,zASIA AND OXIA,zASIA AND PERISPOMENI,zASIA AND VARIA,zIALYTIKA,yMACRON,yOXIA,yTONOS
yVARIA,zRACHY,lXI,lYOT,lZETA,fUNATE SIGMA SYMBOL,eREVERSED DOTTED LUNATE SIGMA SYMBOL
nLUNATE SIGMA SYMBOL,eTHETA SYMBOL,6DASIA,b AND OXIA,gPERISPOMENI,gVARIA,7IALYTIKA AND OXIA
kPERISPOMENI,kVARIA,gTONOS,7RACHMA SIGN,6FIVE OBOLS SIGN,7OUR OBOLS SIGN,6GRAMMA SIGN
6INDICTION SIGN,8STRUMENTAL NOTATION SYMBOL-1,z11,z12,z13,z14,z17,z18,z19,z2,z23,z24,z25,z26,z27,z29
z30,z32,z36,z37,z38,z39,z4,z40,z42,z43,z45,z47,z48,z49,z5,z50,z51,z52,z53,z54,z7,z8,6KAI SYMBOL
8PPA SYMBOL,7ORONIS,7YATHOS BASE SIGN,6LETTER ARCHAIC KOPPA,dDIGAMMA,dKOPPA,dSAMPI
eMALL CAPITAL GAMMA,rLAMDA,rOMEGA,rPI,sSI,rRHO,eTIGMA,dYOT,7ITRA SIGN,7OWER NUMERAL SIGN
7UNATE EPSILON SYMBOL,dSIGMA SYMBOL,6METRETES SIGN,7USICAL LEIMMA,6NUMERAL SIGN,6OBOL SIGN
7NE HALF SIGN,j ALTERNATE FORM,aQUARTER SIGN,7UNKIA SIGN,7XIA,6PERISPOMENI,7HI SYMBOL,7I SYMBOL
7ROSGEGRAMMENI,7SILI,b AND OXIA,gPERISPOMENI,gVARIA,6QUESTION MARK,6REVERSED LUNATE EPSILON SYMBOL
7HO SYMBOL,aWITH STROKE SYMBOL,6SINUSOID SIGN,7MALL DOTTED LUNATE SIGMA SYMBOL,cLETTER ALPHA
o WITH DASIA,z AND OXIA,z AND OXIA AND YPOGEGRAMMENI,z AND PERISPOMENI
z AND PERISPOMENI AND YPOGEGRAMMENI,z AND VARIA,z AND VARIA AND YPOGEGRAMMENI,z AND YPOGEGRAMMENI
uMACRON,uOXIA,y AND YPOGEGRAMMENI,uPERISPOMENI,zPOMENI AND YPOGEGRAMMENI,vSILI,z AND OXIA
z AND OXIA AND YPOGEGRAMMENI,z AND PERISPOMENI,z AND PERISPOMENI AND YPOGEGRAMMENI,z AND VARIA
z AND VARIA AND YPOGEGRAMMENI,z AND YPOGEGRAMMENI,uTONOS,uVARIA,z AND YPOGEGRAMMENI,vRACHY
uYPOGEGRAMMENI,kRCHAIC KOPPA,rSAMPI,jBETA,jCHI,jDELTA,kIGAMMA,jEPSILON,q WITH DASIA,zIA AND OXIA
zIA AND VARIA,wOXIA,wPSILI,zLI AND OXIA,zLI AND VARIA,wTONOS,wVARIA,kTA,m WITH DASIA,x AND OXIA
zND OXIA AND YPOGEGRAMMENI,zND PERISPOMENI,zND PERISPOMENI AND YPOGEGRAMMENI,zND VARIA
zND VARIA AND YPOGEGRAMMENI,zND YPOGEGRAMMENI,sOXIA,w AND YPOGEGRAMMENI,sPERISPOMENI
zMENI AND YPOGEGRAMMENI,tSILI,x AND OXIA,zND OXIA AND YPOGEGRAMMENI,zND PERISPOMENI
zND PERISPOMENI AND YPOGEGRAMMENI,zND VARIA,zND VARIA AND YPOGEGRAMMENI,zND YPOGEGRAMMENI,sTONOS
sVARIA,x AND YPOGEGRAMMENI,sYPOGEGRAMMENI,jFINAL SIGMA,jGAMMA,jHETA,jIOTA,n WITH DASIA,y AND OXIA
zAND PERISPOMENI,zAND VARIA,uIALYTIKA,zIKA AND OXIA,zIKA AND PERISPOMENI,zIKA AND TONOS
zIKA AND VARIA,tMACRON,tOXIA,tPERISPOMENI,uSILI,y AND OXIA,zAND PERISPOMENI,zAND VARIA,tTONOS,tVARIA
uRACHY,jKAPPA,kOPPA,jLAMDA,jMU,jNU,jOMEGA,o WITH DASIA,z AND OXIA,z AND OXIA AND YPOGEGRAMMENI
z AND PERISPOMENI,z AND PERISPOMENI AND YPOGEGRAMMENI,z AND VARIA,z AND VARIA AND YPOGEGRAMMENI
z AND YPOGEGRAMMENI,uOXIA,y AND YPOGEGRAMMENI,uPERISPOMENI,zPOMENI AND YPOGEGRAMMENI,vSILI
z AND OXIA,z AND OXIA AND YPOGEGRAMMENI,z AND PERISPOMENI,z AND PERISPOMENI AND YPOGEGRAMMENI
z AND VARIA,z AND VARIA AND YPOGEGRAMMENI,z AND YPOGEGRAMMENI,uTONOS,uVARIA,z AND YPOGEGRAMMENI
uYPOGEGRAMMENI,lICRON,q WITH DASIA,zIA AND OXIA,zIA AND VARIA,wOXIA,wPSILI,zLI AND OXIA
zLI AND VARIA,wTONOS,wVARIA,jPAMPHYLIAN DIGAMMA,kHI,kI,kSI,jRHO,m WITH DASIA,sPSILI,jSAMPI,lN,kHO
kIGMA,kTIGMA,jTAU,kHETA,jUPSILON,q WITH DASIA,zIA AND OXIA,zIA AND PERISPOMENI,zIA AND VARIA
xIALYTIKA,zLYTIKA AND OXIA,zLYTIKA AND PERISPOMENI,zLYTIKA AND TONOS,zLYTIKA AND VARIA,wMACRON,wOXIA
wPERISPOMENI,xSILI,zLI AND OXIA,zLI AND PERISPOMENI,zLI AND VARIA,wTONOS,wVARIA,xRACHY,jXI,jZETA
cREVERSED DOTTED LUNATE SIGMA SYMBOL,lLUNATE SIGMA SYMBOL,7UBSCRIPT SMALL LETTER BETA,tCHI,tGAMMA
tPHI,tRHO,7YMBOL TAU RHO,6TALENT SIGN,7HETA SYMBOL,8REE OBOLS SIGN,cQUARTERS SIGN,7ONOS
7RYBLION BASE SIGN,7WO OBOLS SIGN,aTHIRDS SIGN,6UPSILON WITH ACUTE AND HOOK SYMBOL
jDIAERESIS AND HOOK SYMBOL,jHOOK SYMBOL,6VARIA,7OCAL NOTATION SYMBOL-1,t0,t1,t2,t3,t4,t5,t6,t7,t8,t9
s2,t0,t1,t2,t3,t4,s3,s4,s5,t0,t1,t2,t3,t4,s6,s7,s8,s9,6XESTES SIGN,6YEAR SIGN,7POGEGRAMMENI
6ZERO SIGN,4N APPLE,6BOOK,6HEART,6SALAD,2IMACING FACE,3NNING CAT FACE WITH SMILING EYES,9FACE
d WITH ONE LARGE AND ONE SMALL EYE,jSMILING EYES,kTAR EYES,2OUP MARK,6SEPARATOR,3WING HEART,1S
1UARANI SIGN,4DSMAN,2IDE DOG,3TAR,2JARATI ABBREVIATION SIGN,9DIGIT EIGHT,fFIVE,gOUR,fNINE,fONE
fSEVEN,gIX,fTHREE,gWO,fZERO,9LETTER A,hA,hI,hU,gBA,hHA,gCA,hHA,gDA,hDA,iHA,hHA,gE,gGA,hHA,gHA,gI,hI
gJA,hHA,gKA,hHA,gLA,hLA,gMA,gNA,hGA,hNA,hYA,gO,gPA,hHA,gRA,gSA,hHA,hSA,gTA,hHA,hTA,iHA,gU,hU,gVA
hOCALIC L,pL,oR,pR,gYA,gZHA,9OM,9RUPEE SIGN,9SIGN ANUSVARA,fVAGRAHA,eCANDRABINDU,fIRCLE NUKTA ABOVE
eMADDAH,eNUKTA,eSHADDA,fUKUN,eTHREE-DOT NUKTA ABOVE,fWO-CIRCLE NUKTA ABOVE,eVIRAMA,gSARGA
9VOWEL CANDRA E,mO,fSIGN AA,lI,lU,kCANDRA E,rO,kE,kI,lI,kO,kU,lU,kVOCALIC L,tL,sR,tR
2NJALA GONDI DIGIT EIGHT,kFIVE,lOUR,kNINE,kONE,kSEVEN,lIX,kTHREE,lWO,kZERO,eLETTER A,mA,mI,mU,lBA
mHA,lCA,mHA,lDA,mDA,nHA,mHA,lEE,lGA,mHA,lHA,lI,mI,lJA,mHA,lKA,mHA,lLA,mLA,lMA,lNA,mGA,lOO,lPA,mHA
lRA,lSA,lTA,mHA,mTA,nHA,lU,mU,lVA,lYA,eOM,eSIGN ANUSVARA,jVISARGA,eVIRAMA,fOWEL SIGN AA,qI,qU,pEE,pI
qI,pOO,pU,qU,2RMUKHI ABBREVIATION SIGN,aDDAK,9DIGIT EIGHT,fFIVE,gOUR,fNINE,fONE,fSEVEN,gIX,fTHREE
gWO,fZERO,9EK ONKAR,9IRI,9LETTER A,hA,hI,hU,gBA,hHA,gCA,hHA,gDA,hDA,iHA,hHA,gEE,gFA,gGA,hHA,iHA,gHA
gI,hI,gJA,hHA,gKA,hHA,iHA,gLA,hLA,gMA,gNA,hGA,hNA,hYA,gOO,gPA,hHA,gRA,hRA,gSA,hHA,gTA,hHA,hTA,iHA,gU
hU,gVA,gYA,gZA,9SIGN ADAK BINDI,eBINDI,eNUKTA,eUDAAT,eVIRAMA,gSARGA,eYAKASH,9TIPPI,9URA
9VOWEL SIGN AA,lI,lU,kEE,kI,lI,kOO,kU,lU,0HADES,2IR SPACE,4CUT,2LFWIDTH BLACK SQUARE
aDOWNWARDS ARROW,aFORMS LIGHT VERTICAL,aHANGUL FILLER,hLETTER A,pE,oCHIEUCH,pIEUC,oE,pO,pU,oHIEUH,oI
pEUNG,oKHIEUKH,pIYEOK,u-SIOS,oMIEUM,oNIEUN,t-CIEUC,uHIEUH,oO,pE,oPHIEUPH,pIEUP,t-SIOS,oRIEUL,t-HIEUH
uKIYEOK,uMIEUM,uPHIEUPH,vIEUP,uSIOS,uTHIEUTH,oSIOS,pSANGCIEUC,tKIYEOK,tPIEUP,tSIOS,tTIKEUT,oTHIEUTH
pIKEUT,oU,oWA,qE,pE,qO,pI,oYA,qE,pE,qO,pI,pO,pU,aIDEOGRAPHIC COMMA,mFULL STOP,aKATAKANA LETTER A,qE
qHA,rE,rI,rO,rU,qI,qKA,rE,rI,rO,rU,qMA,rE,rI,rO,rU,qN,rA,rE,rI,rO,rU,qO,qRA,rE,rI,rO,rU,qSA,rE,rI
rMALL A,wE,wI,wO,wTU,wU,wYA,xO,xU,rO,rU,qTA,rE,rI,rO,rU,qU,qWA,rO,qYA,rO,rU,jMIDDLE DOT
jSEMI-VOICED SOUND MARK,jVOICED SOUND MARK,i-HIRAGANA PROLONGED SOUND MARK,aLEFT CORNER BRACKET
eWARDS ARROW,aRIGHT CORNER BRACKET,fWARDS ARROW,aUPWARDS ARROW,aWHITE CIRCLE,2MBURGER,3MER
6 AND PICK,bSICKLE,bWRENCH,3SA,4TER FACE,2ND WITH INDEX AND MIDDLE FINGERS CROSSED
gFINGER AND THUMB CROSSED,4BAG,6LL,4SHAKE,3GUL CHOSEONG CEONGCHIEUMCHIEUCH,sIEUC,rSIOS,sSANGCIEUC
wSIOS,hHIEUCH,n-HIEUH,oKHIEUKH,jTUEUMCHIEUCH,pIEUC,oSIOS,pSANGCIEUC,tSIOS,hIEUC,l-IEUNG,gFILLER
gHIEUH,l-SIOS,gIEUNG,l-CHIEUCH,nIEUC,mHIEUH,mKIYEOK,mMIEUM,mPANSIOS,nHIEUPH,nIEUP,mRIEUL,mSIOS
mTHIEUTH,nIKEUT,gKAPYEOUNMIEUM,oPHIEUPH,pIEUP,oRIEUL,oSSANGPIEUP,hHIEUKH,hIYEOK,m-TIKEUT,gMIEUM
l-KIYEOK,mPIEUP,mSIOS,mTIKEUT,gNIEUN,l-CIEUC,mHIEUH,mKIYEOK,mPIEUP,mSIOS,mTIKEUT,gPANSIOS,hHIEUPH
n-HIEUH,oPIEUP,hIEUP,l-CHIEUCH,nIEUC,mHIEUH,mKHIEUKH,nIYEOK,mNIEUN,mPHIEUPH,mSIOS,q-CIEUC,rKIYEOK
rPIEUP,rTHIEUTH,sIKEUT,nSANGSIOS,mTHIEUTH,nIKEUT,gRIEUL,l-CIEUC,mHIEUH,mKAPYEOUNPIEUP,nHIEUKH,nIYEOK
mMIEUM,mNIEUN,mPIEUP,mSIOS,nSANGKIYEOK,rPIEUP,rTIKEUT,mTIKEUT,gSIOS,k-CHIEUCH,mIEUC,lHIEUH,lIEUNG
lKHIEUKH,mIYEOK,lMIEUM,lNIEUN,lPHIEUPH,mIEUP,q-KIYEOK,lRIEUL,lSSANGSIOS,lTHIEUTH,mIKEUT,hSANGCIEUC
q-HIEUH,lHIEUH,lIEUNG,lKIYEOK,lNIEUN,lPIEUP,lRIEUL,lSIOS,p-PIEUP,lTHIEUTH,mIKEUT,lYEORINHIEUH
gTHIEUTH,hIKEUT,m-CIEUC,nKIYEOK,nMIEUM,nPIEUP,nRIEUL,nSIOS,gYEORINHIEUH,iSIEUNG
7DOUBLE DOT TONE MARK,7FILLER,7JONGSEONG CHIEUCH,iIEUC,m-PIEUP,nSSANGPIEUP,hHIEUH,m-MIEUM,nNIEUN
nPIEUP,nRIEUL,hIEUNG,m-KHIEUKH,oIYEOK,nSSANGKIYEOK,hKAPYEOUNMIEUM,pPHIEUPH,qIEUP,pRIEUL,iHIEUKH
iIYEOK,n-CHIEUCH,oHIEUH,oKHIEUKH,oNIEUN,oPIEUP,oRIEUL,oSIOS,s-KIYEOK,hMIEUM,m-CHIEUCH,oIEUC,nHIEUH
nKIYEOK,nNIEUN,nPANSIOS,oIEUP,s-SIOS,nRIEUL,nSIOS,oSANGNIEUN,sSIOS,hNIEUN,m-CHIEUCH,oIEUC,nHIEUH
nKIYEOK,nPANSIOS,nRIEUL,nSIOS,nTHIEUTH,oIKEUT,hPANSIOS,o-KAPYEOUNPIEUP,pPIEUP,iHIEUPH,o-PIEUP,pSIOS
pTHIEUTH,iIEUP,m-CHIEUCH,oIEUC,nHIEUH,nMIEUM,nPHIEUPH,nRIEUL,s-PHIEUPH,nSIOS,r-TIKEUT,nTIKEUT,hRIEUL
m-HIEUH,nKAPYEOUNPIEUP,oHIEUKH,oIYEOK,t-HIEUH,uSIOS,nMIEUM,s-HIEUH,tKIYEOK,tSIOS,nNIEUN,nPANSIOS
oHIEUPH,oIEUP,s-HIEUH,tPHIEUPH,tSIOS,tTIKEUT,nSIOS,oSANGKIYEOK,sSIOS,nTHIEUTH,oIKEUT,t-HIEUH
nYEORINHIEUH,y-HIEUH,pSIEUNG,hSIOS,l-CHIEUCH,nIEUC,mHIEUH,mKAPYEOUNPIEUP,nIYEOK,mMIEUM,mPANSIOS
nIEUP,mRIEUL,mTHIEUTH,nIKEUT,iSANGCIEUC,mIEUNG,mKIYEOK,mMIEUM,mNIEUN,mPIEUP,mRIEUL,r-KHIEUKH,mSIOS
q-KIYEOK,rTIKEUT,mTIKEUT,s-PIEUP,mYESIEUNG,hTHIEUTH,iIKEUT,n-CHIEUCH,pIEUC,oKIYEOK,oPIEUP,oRIEUL
oSIOS,s-KIYEOK,oTHIEUTH,hYEORINHIEUH,jSIEUNG,p-HIEUH,qKHIEUKH,rIYEOK,qMIEUM,qPANSIOS,qSIOS
rSANGKIYEOK,8UNGSEONG A,i-EU,jO,jU,iE,iRAEA,m-A,nE,oO,nI,nU,hE,iO,j-EU,kO,kU,iU,j-A,kE,lO,lU,kO,kU
hFILLER,hI,i-A,kRAEA,jEU,jI,jO,k-I,jU,jYA,l-O,lE,kE,lO,kO,kU,hO,i-E,kO,jO,k-I,jU,jYA,lE,kE,lO,iE
hSSANGARAEA,hU,i-A,kE,jEO-EU,jI-I,jU,jYE,lO,hWA,jE,iE,jO,iI,hYA,j-O,kU,kYO,jE,iE,jO,k-O,lU,lYA,iI
j-U,iO,j-A,lE,kEO,kI,kO,kYA,mE,lEO,iU,j-A,lE,kE,lO,kI,kO,kU,kYE,mO,7LETTER A,fE,fRAEA,jE,eCHIEUCH
fIEUC,eE,fO,fU,eHIEUH,eI,fEUNG,eKAPYEOUNMIEUM,mPHIEUPH,nIEUP,mSSANGPIEUP,fHIEUKH,fIYEOK,k-SIOS
eMIEUM,j-PANSIOS,lIEUP,kSIOS,eNIEUN,j-CIEUC,kHIEUH,kPANSIOS,kSIOS,kTIKEUT,eO,fE,ePANSIOS,fHIEUPH
fIEUP,j-CIEUC,kKIYEOK,kSIOS,o-KIYEOK,pTIKEUT,kTHIEUTH,lIKEUT,eRIEUL,j-HIEUH,kKIYEOK,q-SIOS,kMIEUM
kPANSIOS,lHIEUPH,lIEUP,p-SIOS,kSIOS,kTHIEUTH,lIKEUT,kYEORINHIEUH,eSIOS,i-CIEUC,jKIYEOK,jNIEUN,jPIEUP
jTIKEUT,fSANGCIEUC,jHIEUH,jIEUNG,jKIYEOK,jNIEUN,jPIEUP,jSIOS,jTIKEUT,eTHIEUTH,fIKEUT,eU,eWA,gE,fE,gO
fI,eYA,gE,fE,gO,hRINHIEUH,gSIEUNG,m-PANSIOS,nSIOS,fI,fO,g-I,hYA,jE,fU,g-I,hYE,jO
7SINGLE DOT TONE MARK,4ZHOU NUMERAL EIGHT,hFIVE,iOUR,hNINE,hONE,hSEVEN,iIX,hTEN,iHIRTY,jREE,iWENTY
jO,3IFI ROHINGYA DIGIT EIGHT,mFIVE,nOUR,mNINE,mONE,mSEVEN,nIX,mTHREE,nWO,mZERO,gLETTER A,nBA,nCA,nDA
oDA,nFA,nGA,nHA,nJA,nKA,oHA,oINNA WA,tYA,nLA,nMA,nNA,oGA,oYA,nPA,nRA,oRA,nSA,oHA,nTA,oTA,nVA,nWA,nYA
nZA,gMARK NA KHONNA,lSAKIN,gSIGN HARBAHAY,lTAHALA,nNA,nSSI,gVOWEL A,mE,mI,mO,mU,3UNOO LETTER A,fBA
fDA,fGA,fHA,fI,fKA,fLA,fMA,fNA,gGA,fPA,fRA,fSA,fTA,fU,fWA,fYA,8SIGN PAMUDPOD,8VOWEL SIGN I,jU
2PPY PERSON RAISING ONE HAND,2RD DISK,2TCHING CHICK,3RAN LETTER ALEPH,fYN,eBETH,eDALETH-RESH,eGIMEL
eHE,gTH,eKAPH,eLAMEDH,eMEM,eNUN,ePE,eQOPH,eSADHE,gMEKH,fHIN,eTAW,fETH,eWAW,eYODH,eZAYN,7NUMBER FIVE
eONE,h HUNDRED,eTEN,fWENTY,1EADPHONE,4STONE,9 GRAVEYARD SYMBOL,3R-NO-EVIL MONKEY,4T DECORATION
6HANDS,6WITH ARROW,bRIBBON,bTIP ON THE LEFT,3VY AMPERSAND ORNAMENT,7RROW SHAFT WIDTH ONE,r HALF
sTHIRD,oTWO THIRDS,7STERISK,6BALLOT X,7LACK CURVED DOWNWARDS AND RIGHTWARDS ARROW
jUPWARDS AND RIGHTWARDS ARROW,cHEART,b-FEATHERED NORTH EAST ARROW,mRIGHTWARDS ARROW
mSOUTH EAST ARROW,6CHECK MARK,9VRON SNOWFLAKE,7IRCLE,c WITH CIRCLE INSIDE,iSTROKE AND TWO DOTS ABOVE
cD SALTIRE,7ONCAVE-POINTED BLACK RIGHTWARDS ARROW,6DASHED TRIANGLE-HEADED RIGHTWARDS ARROW
7IVISION SIGN,7OLLAR SIGN,8UBLE COMMA QUOTATION MARK ORNAMENT,dTURNED COMMA QUOTATION MARK ORNAMENT
8WNWARDS ARROW WITH EQUILATERAL ARROWHEAD,rLARGE EQUILATERAL ARROWHEAD,6EIGHT POINTED BLACK STAR
kPINWHEEL STAR,kRECTILINEAR BLACK STAR,cSPOKED ASTERISK,cTEARDROP-SPOKED PROPELLER ASTERISK
7QUALS SIGN,7XCLAMATION MARK ORNAMENT,nSYMBOL,6FIVE POINTED BLACK STAR,bSPOKED ASTERISK
7OUR BALLOON-SPOKED ASTERISK,6GREEK CROSS,6HEART EXCLAMATION MARK ORNAMENT,7ORIZONTAL FILL
6INTERROBANG ORNAMENT,6LARGE CIRCLE,8TIN CROSS,7EFT-POINTING ANGLE BRACKET ORNAMENT
qQUOTATION MARK ORNAMENT,aWARDS ARROW WITH EQUILATERAL ARROWHEAD,rLARGE EQUILATERAL ARROWHEAD
7IGATURE OPEN ET ORNAMENT,7OW DOUBLE COMMA QUOTATION MARK ORNAMENT
aSINGLE COMMA QUOTATION MARK ORNAMENT,9ER RIGHT-SHADOWED WHITE RIGHTWARDS ARROW,6MINUS SIGN
7ULTIPLICATION X,6NORTH EAST ARROW,hPOINTING BUD,qVINE LEAF,cWEST POINTING BUD,qVINE LEAF
6OPEN CENTRE CROSS,7UTLINED BLACK STAR,7VAL WITH OVAL INSIDE,6PLUS SIGN
6RIGHT-POINTING ANGLE BRACKET ORNAMENT,rQUOTATION MARK ORNAMENT,bWARDS ARROW
m WITH EQUILATERAL ARROWHEAD,sLARGE EQUILATERAL ARROWHEAD,7OUND-TIPPED RIGHTWARDS ARROW,6SALTIRE
8NS-SERIF INTERROBANG ORNAMENT,7CRIPT LIGATURE ET ORNAMENT,7INGLE COMMA QUOTATION MARK ORNAMENT
dTURNED COMMA QUOTATION MARK ORNAMENT,8X POINTED BLACK STAR,aSPOKED ASTERISK,7OUTH EAST ARROW
hPOINTING BUD,qVINE LEAF,cWEST POINTING BUD,qVINE LEAF,7PARKLE,6TEARDROP-SHANKED RIGHTWARDS ARROW
gPOKED ASTERISK,mPINWHEEL ASTERISK,7RIANGLE-HEADED RIGHTWARDS ARROW,7WELVE POINTED BLACK STAR
lPINWHEEL STAR,6UPPER RIGHT-SHADOWED WHITE RIGHTWARDS ARROW,8WARDS ARROW WITH EQUILATERAL ARROWHEAD
pLARGE EQUILATERAL ARROWHEAD,6VERTICAL BAR,6WEDGE-TAILED RIGHTWARDS ARROW,7HITE CIRCLE
cDOWN-POINTING TRIANGLE,cSQUARE,7IDE-HEADED RIGHTWARDS ARROW,2BREW ACCENT ATNAH HAFUKH,eDARGA,fEHI
eETNAHTA,eGERESH,k MUQDAM,hSHAYIM,eILUY,eMAHAPAKH,fERKHA,k KEFULA,fUNAH,eOLE,ePASHTA,gZER,eQADMA
gRNEY PARA,eREVIA,eSEGOL,fHALSHELET,eTELISHA GEDOLA,mQETANA,gVIR,fIPEHA,eYERAH BEN YOMO,gTIV
eZAQEF GADOL,kQATAN,gRQA,fINOR,7LETTER ALEF,i WITH MAPIQ,oPATAH,oQAMATS,gTERNATIVE AYIN,qPLUS SIGN
fYIN,eBET,h WITH DAGESH,nRAFE,eDALET,j WITH DAGESH,eFINAL KAF,n WITH DAGESH,kMEM,kNUN,kPE
m WITH DAGESH,kTSADI,eGIMEL,j WITH DAGESH,eHE,g WITH MAPIQ,gT,eKAF,h WITH DAGESH,nRAFE,eLAMED
j WITH DAGESH,eMEM,h WITH DAGESH,eNUN,h WITH DAGESH,ePE,g WITH DAGESH,mRAFE,eQOF,h WITH DAGESH,eRESH
i WITH DAGESH,eSAMEKH,k WITH DAGESH,fHIN,i WITH DAGESH,u AND SHIN DOT,zSIN DOT,oSHIN DOT,pIN DOT
eTAV,h WITH DAGESH,fET,h WITH DAGESH,fSADI,j WITH DAGESH,eVAV,h WITH DAGESH,nHOLAM,eWIDE ALEF,jDALET
jFINAL MEM,jHE,jKAF,jLAMED,jRESH,jTAV,eYOD,h WITH DAGESH,nHIRIQ,eZAYIN,j WITH DAGESH
8IGATURE ALEF LAMED,gYIDDISH DOUBLE VAV,vYOD,oVAV YOD,oYOD YOD PATAH,7MARK LOWER DOT,cMASORA CIRCLE
cUPPER DOT,7POINT DAGESH OR MAPIQ,dHATAF PATAH,jQAMATS,jSEGOL,eIRIQ,eOLAM,i HASER FOR VAV
dJUDEO-SPANISH VARIKA,dMETEG,dPATAH,dQAMATS,j QATAN,eUBUTS,dRAFE,dSEGOL,eHEVA,fIN DOT,eIN DOT,dTSERE
8UNCTUATION GERESH,mSHAYIM,jMAQAF,jNUN HAFUKHA,jPASEQ,jSOF PASUQ,7YOD TRIANGLE,2DGEHOG,2LICOPTER
3LSCHREIBER PAUSE SYMBOL,3M SYMBOL,4ET WITH WHITE CROSS,2NTAIGANA LETTER A-1,k2,k3,kWO,iE-1,k2,k3,k4
k5,k6,iHA-1,m0,m1,l2,l3,l4,l5,l6,l7,l8,l9,jE-1,l2,l3,l4,l5,l6,l7,jI-1,l2,l3,l4,l5,l6,l7,jO-1,l2,l3
l4,l5,l6,l7,l8,jU-1,l2,l3,iI-1,k2,k3,k4,iKA-1,m0,m1,l2,l3,l4,l5,l6,l7,l8,l9,lKE,jE-1,l2,l3,l4,l5,l6
jI-1,l2,l3,l4,l5,l6,l7,l8,jO-1,l2,l3,lKI,jU-1,l2,l3,l4,l5,l6,l7,iMA-1,l2,l3,l4,l5,l6,l7,jE-1,l2,lMA
jI-1,l2,l3,l4,l5,l6,l7,jO-1,l2,l3,l4,l5,l6,jU-1,l2,l3,l4,iN-MU-MO-1,q2,jA-1,l2,l3,l4,l5,l6,l7,l8,l9
jE-1,l2,l3,l4,l5,l6,lKO,jI-1,l2,l3,l4,l5,l6,l7,lTE,jO-1,l2,l3,l4,l5,jU-1,l2,l3,iO-1,k2,k3,iRA-1,l2
l3,l4,jE-1,l2,l3,l4,jI-1,l2,l3,l4,l5,l6,l7,jO-1,l2,l3,l4,l5,l6,jU-1,l2,l3,l4,l5,l6,iSA-1,l2,l3,l4,l5
l6,l7,l8,jE-1,l2,l3,l4,l5,jI-1,l2,l3,l4,l5,l6,jO-1,l2,l3,l4,l5,l6,l7,jU-1,l2,l3,l4,l5,l6,l7,l8,iTA-1
l2,l3,l4,jE-1,l2,l3,l4,l5,l6,l7,l8,l9,jI-1,l2,l3,l4,l5,l6,l7,jO-1,l2,l3,l4,l5,l6,lRA,jU-1,l2,l3,l4
lTO,iU-1,k2,k3,k4,k5,iWA-1,l2,l3,l4,l5,jE-1,l2,l3,l4,jI-1,l2,l3,l4,l5,jO-1,l2,l3,l4,l5,l6,l7,iYA-1
l2,l3,l4,l5,lYO,jO-1,l2,l3,l4,l5,l6,jU-1,l2,l3,l4,2RB,3MITIAN CONJUGATE MATRIX,2XAGRAM FOR ABUNDANCE
eFTER COMPLETION,ePPROACH,dBEFORE COMPLETION,eITING THROUGH,eREAKTHROUGH,dCOMING TO MEET,fNFLICT
gTEMPLATION,dDARKENING OF THE LIGHT,eECREASE,fLIVERANCE,fVELOPMENT,eIFFICULTY AT THE BEGINNING
fSPERSION,eURATION,dENTHUSIASM,dFELLOWSHIP,eOLLOWING,dGATHERING TOGETHER,eRACE,fEAT POSSESSION,lWER
kREPONDERANCE,jTAMING,dHOLDING TOGETHER,dINCREASE,fFLUENCE,fNER TRUTH,gOCENCE,dLIMITATION,dMODESTY
fUTH CORNERS,dOBSTRUCTION,ePPOSITION,gRESSION,dPEACE,eROGRESS,eUSHING UPWARD,dRETREAT,gURN,fVOLUTION
dSMALL PREPONDERANCE,jTAMING,ePLITTING APART,eTANDSTILL,dTHE ABYSMAL WATER,iRMY,jOUSING THUNDER
hCAULDRON,iLINGING FIRE,iREATIVE HEAVEN,hFAMILY,hGENTLE WIND,hJOYOUS LAKE,hKEEPING STILL MOUNTAIN
hMARRYING MAIDEN,hRECEPTIVE EARTH,hWANDERER,iELL,eREADING,dWAITING,eORK ON THE DECAYED
dYOUTHFUL FOLLY,1IBISCUS,2GH BRIGHTNESS SYMBOL,5OCTET PRESET,5VOLTAGE SIGN,4-HEELED SHOE
5SPEED TRAIN,g WITH BULLET NOSE,2KING BOOT,2NDU TEMPLE,2PPOPOTAMUS,2RAGANA DIGRAPH YORI
9ITERATION MARK,9LETTER A,hRCHAIC WU,oYE,gBA,hE,hI,hO,hU,gDA,hE,hI,hO,hU,gE,gGA,hE,hI,hO,hU,gHA,hE
hI,hO,hU,gI,gKA,hE,hI,hO,hU,gMA,hE,hI,hO,hU,gN,hA,hE,hI,hO,hU,gO,gPA,hE,hI,hO,hU,gRA,hE,hI,hO,hU,gSA
hE,hI,hMALL A,mE,mI,mKA,nE,mO,mTU,mU,mWA,nE,nI,nO,mYA,nO,nU,hO,hU,gTA,hE,hI,hO,hU,gU,gVU,gWA,hE,hI
hO,gYA,hO,hU,gZA,hE,hI,hO,hU,9VOICED ITERATION MARK,2STORIC SITE,1OCHO,2LE
3LOW QUILT SQUARE ORNAMENT,s IN BLACK SQUARE,2MOTHETIC,2NEY POT,5BEE,2OK,2P,2RIZONTAL BAR
cLACK HEXAGON,hOCTAGON,bELLIPSIS,bLINE EXTENSION,bMALE WITH STROKE SIGN,bONE EIGHTH BLOCK-1358,s2,s3
s4,s5,s6,s7,bSCAN LINE-1,l3,l7,l9,bTAB KEY,eULATION,l SET,mWITH JUSTIFICATION,cRAFFIC LIGHT,3SE
5 FACE,6RACING,2SPITAL,2T BEVERAGE,4DOG,4PEPPER,4SPRINGS,3EL,2URGLASS,9 WITH FLOWING SAND,3SE
5 BUILDING,eS,6WITH GARDEN,1RYVNIA SIGN,1T,2J,2S,1UGGING FACE,2NDRED POINTS SYMBOL,2SHED FACE,2T
1YGIEA,2PHEN,6 BULLET,7WITH DIAERESIS,6-MINUS,6ATION POINT,3ODIASTOLE,2STERESIS SYMBOL
0I LOVE YOU HAND SIGN,1CE CREAM,5UBE,4HOCKEY STICK AND PUCK,4SKATE,1DENTICAL TO
c AND SLANTED PARALLEL,aWITH DOT ABOVE,6FICATION CARD,3OGRAPHIC ANNOTATION BOTTOM MARK,nEARTH MARK
nFIRST MARK,oOUR MARK,rTH MARK,nHEAVEN MARK,nLINKING MARK,nMAN MARK,oIDDLE MARK,nONE MARK
nREVERSE MARK,nSECOND MARK,nTHIRD MARK,pREE MARK,oOP MARK,oWO MARK,cCLOSING MARK,dOMMA
cDEPARTING TONE MARK,eSCRIPTION CHARACTER ABOVE TO BELOW,zBOVE TO MIDDLE AND BELOW,yFULL SURROUND
yLEFT TO MIDDLE AND RIGHT,zEFT TO RIGHT,yOVERLAID,ySURROUND FROM ABOVE,zURROUND FROM BELOW
zURROUND FROM LEFT,zURROUND FROM LOWER LEFT,zURROUND FROM UPPER LEFT,zURROUND FROM UPPER RIGHT
cENTERING TONE MARK,cFULL STOP,cHALF FILL SPACE,cITERATION MARK,cLEVEL TONE MARK,cNUMBER ZERO
cRISING TONE MARK,cSPACE,cTALLY MARK FIVE,oOUR,nONE,nTHREE,oWO,dELEGRAPH LINE FEED SEPARATOR SYMBOL
mSYMBOL FOR APRIL,yUGUST,xDAY EIGHT,zY EIGHTEEN,zY ELEVEN,zY FIFTEEN,zY FIVE,zY FOUR,zY FOURTEEN
zY NINE,zY NINETEEN,zY ONE,zY SEVEN,zY SEVENTEEN,zY SIX,zY SIXTEEN,zY TEN,zY THIRTEEN,zY THIRTY
zY THIRTY-ONE,zY THREE,zY TWELVE,zY TWENTY,zY TWENTY-EIGHT,zY TWENTY-FIVE,zY TWENTY-FOUR
zY TWENTY-NINE,zY TWENTY-ONE,zY TWENTY-SEVEN,zY TWENTY-SIX,zY TWENTY-THREE,zY TWENTY-TWO,zY TWO
yECEMBER,xFEBRUARY,xHOUR EIGHT,zUR EIGHTEEN,zUR ELEVEN,zUR FIFTEEN,zUR FIVE,zUR FOUR,zUR FOURTEEN
zUR NINE,zUR NINETEEN,zUR ONE,zUR SEVEN,zUR SEVENTEEN,zUR SIX,zUR SIXTEEN,zUR TEN,zUR THIRTEEN
zUR THREE,zUR TWELVE,zUR TWENTY,zUR TWENTY-FOUR,zUR TWENTY-ONE,zUR TWENTY-THREE,zUR TWENTY-TWO
zUR TWO,zUR ZERO,xJANUARY,yULY,zNE,xMARCH,zY,xNOVEMBER,xOCTOBER,xSEPTEMBER,cVARIATION INDICATOR
1MAGE OF,8 OR APPROXIMATELY EQUAL TO,2P,3ERIAL ARAMAIC LETTER ALEPH,pYIN,oBETH,oDALETH,oGIMEL,oHE
qTH,oKAPH,oLAMEDH,oMEM,oNUN,oPE,oQOPH,oRESH,oSADHE,qMEKH,pHIN,oTAW,pETH,oWAW,oYODH,oZAYIN
hNUMBER ONE,r HUNDRED,sTHOUSAND,oTEN,r THOUSAND,pHREE,pWENTY,qO,hSECTION SIGN,1NBOX TRAY
2COMING ENVELOPE,5PLETE INFINITY,3REASE FONT SIZE SYMBOL,8S AS,5MENT,2D,3EX,5 POINTING AT THE VIEWER
3IAN RUPEE SIGN,4C SIYAQ ALTERNATE LAKH MARK,cFRACTION ONE HALF,pQUARTER,lTHREE QUARTERS,cLAKH MARK
cNUMBER ALTERNATE ONE,tTEN THOUSAND,uWO,jEIGHT,o HUNDRED,pTHOUSAND,oY,p THOUSAND,jFIFTY,o THOUSAND
lVE,n HUNDRED,oTHOUSAND,kORTY,o THOUSAND,lUR,n HUNDRED,oTHOUSAND,jKAROR,oAN,jLAKH,nAN,jNINE
n HUNDRED,oTHOUSAND,nTY,p THOUSAND,jONE,m HUNDRED,nTHOUSAND,jPREFIXED EIGHT,sFIVE,tOUR,sNINE,sONE
sSEVEN,tIX,sTHREE,tWO,jSEVEN,o HUNDRED,pTHOUSAND,oTY,q THOUSAND,kIX,m HUNDRED,nTHOUSAND,mTY
o THOUSAND,jTEN,m THOUSAND,kHIRTY,p THOUSAND,lREE,o HUNDRED,pTHOUSAND,kWENTY,p THOUSAND,lO,m HUNDRED
nTHOUSAND,cPLACEHOLDER,cRUPEE MARK,2FINITY,8 NEGATED WITH VERTICAL BAR,3ORMATION DESK PERSON
cSEPARATOR FOUR,mONE,mTHREE,nWO,dOURCE,2HIBIT ARABIC FORM SHAPING,8SYMMETRIC SWAPPING
2PUT SYMBOL FOR LATIN CAPITAL LETTERS,nLETTERS,nSMALL LETTERS,hNUMBERS,hSYMBOLS
2SCRIPTIONAL PAHLAVI LETTER ALEPH,tBETH,tDALETH,tGIMEL,tHE,vTH,tKAPH,tLAMEDH,tMEM-QOPH,tNUN,tPE
tSADHE,vMEKH,uHIN,tTAW,uETH,tWAW-AYIN-RESH,tYODH,tZAYIN,mNUMBER FOUR,tONE,w HUNDRED,xTHOUSAND,tTEN
uHREE,uWENTY,vO,gRTHIAN LETTER ALEPH,vYIN,uBETH,uDALETH,uGIMEL,uHE,wTH,uKAPH,uLAMEDH,uMEM,uNUN,uPE
uQOPH,uRESH,uSADHE,wMEKH,vHIN,uTAW,vETH,uWAW,uYODH,uZAYIN,nNUMBER FOUR,uONE,x HUNDRED,yTHOUSAND,uTEN
vHREE,vWENTY,wO,3ERTION SYMBOL,2TEGRAL,8 AROUND A POINT OPERATOR,aVERAGE WITH SLASH,9EXTENSION
9WITH DOUBLE STROKE,eINTERSECTION,eLEFTWARDS ARROW WITH HOOK,eOVERBAR,eTIMES SIGN,eUNDERBAR,gION
4RCALATE,5IOR PRODUCT,5LINEAR ANNOTATION ANCHOR,nSEPARATOR,nTERMINATOR,6OCKED FEMALE AND MALE SIGN
5ROBANG,5SECTION,c ABOVE BAR ABOVE UNION,jUNION,dBESIDE AND JOINED WITH INTERSECTION,dWITH DOT
iLOGICAL AND,iOVERBAR,2VERSE BULLET,8CHECK MARK,dER BOARD FILL,8DOWNWARDS ARROW WITH TIP LEFTWARDS
8MEDIUM SHADE,8WHITE CIRCLE,5TED EXCLAMATION MARK,9INTERROBANG,9LAZY S,aOW KAVYKA
j WITH KAVYKA ABOVE,9OHM SIGN,9PENTAGRAM,9QUESTION MARK,9UNDERTIE,3ISIBLE PLUS,aSEPARATOR,aTIMES
1ZAKAYA LANTERN,0JACK-O-LANTERN,2PANESE BANK SYMBOL,9CASTLE,9DOLLS,9GOBLIN
9INDUSTRIAL STANDARD SYMBOL,9OGRE,9POST OFFICE,9SYMBOL FOR BEGINNER,2R,2VANESE CONSONANT SIGN CAKRA
oKERET,oPENGKAL,9DIGIT EIGHT,fFIVE,gOUR,fNINE,fONE,fSEVEN,gIX,fTHREE,gWO,fZERO,9LEFT RERENGGAN
bTTER A,hI,gBA,i MURDA,gCA,i MURDA,gDA,i MAHAPRANA,hDA,j MAHAPRANA,gE,gGA,i MURDA,gHA,gI,h KAWI,hI
gJA,i MAHAPRANA,gKA,i MURDA,jSASAK,gLA,gMA,gNA,i MURDA,hGA,j LELET,p RASWADI,hYA,j MURDA,gO,gPA
i CEREK,jMURDA,gRA,i AGUNG,gSA,i MAHAPRANA,kURDA,gTA,i MURDA,hTA,j MAHAPRANA,gU,gWA,gYA,9PADA ADEG
i ADEG,fNDAP,eISEN-ISEN,eLINGSA,fUHUR,gNGSI,eMADYA,ePANGKAT,fISELEH,eTIRTA TUMETES,eWINDU,bNGKON
dRANGKEP,9RIGHT RERENGGAN,9SIGN CECAK,j TELU,eLAYAR,ePANYANGGA,eWIGNYAN,9TURNED PADA PISELEH
9VOWEL SIGN DIRGA MURE,kPEPET,kSUKU,o MENDUT,kTALING,mRUNG,lOLONG,kWULU,o MELIK,1EANS
1IGSAW PUZZLE PIECE,1OIN,2YSTICK,1UGGLING,2NO,2PITER,0KAABA,2ITHI ABBREVIATION SIGN,7DANDA
8OUBLE DANDA,eSECTION MARK,7ENUMERATION SIGN,7LETTER A,fA,fI,fU,eBA,fHA,eCA,fHA,eDA,fDA,gDHA,gHA,fHA
eE,eGA,fHA,eHA,eI,fI,eJA,fHA,eKA,fHA,eLA,eMA,eNA,fGA,fNA,fYA,eO,ePA,fHA,eRA,fHA,eSA,fHA,fSA,eTA,fHA
fTA,gHA,eU,fU,eVA,eYA,7NUMBER SIGN,i ABOVE,7SECTION MARK,8IGN ANUSVARA,cCANDRABINDU,cNUKTA,cVIRAMA
eSARGA,7VOWEL SIGN AA,jI,jU,iE,iI,jI,iO,iU,jU,iVOCALIC R,2NGAROO,4XI RADICAL AGAIN,gND,gRRIVE,iOW
gXE,fBADGER,hMBOO,gEAN,gIG,hRD,hTTER,gLACK,hOOD,hUE,gOAT,hDY,hLT OF CLOTH,hNE,hW,gRANCH,hISTLE,hUSH
fCART,hULDRON,hVE,gHILD,gITY,gLAN,iW,hIFF,hOTHES,gOLOR,hMPARE,hRPSE,hVER,hW,fDEATH,hER,gIPPER,hSH
iTINGUISH,hVINATION,gO NOT,hG,hOR,hT,iTED CLIFF,mTENT,hUBLE X,hWN BOX,gRAGON,hUM,hY,fEAR,iTH,hT
gIGHT,gMBROIDERY,gNCLOSURE,hTER,gVEN,jING,gYE,fFACE,hNG,hTHER,gEATHER,gIELD,hGHT,hRE,hSH,gLUTE,hY
gOOT,gRAGRANT,hOG,gUR,fGATE,gHOST,gO,h SLOWLY,hLD,gRAIN,iSS,fHAIR,hLBERD,iF TREE TRUNK,hND,gEAD,iRT
hMP,gIDING ENCLOSURE,gOOK,hRN,iSE,fICE,gNCH,hSECT,fJADE,hR,fKNIFE,fLACK,hME,gEAF,iTHER,hEK,hGS,gID
hFE,hNE,gONG,j STRIDE,fMAN,gEAT,hLON,gILLET,hNISTER,gOON,hRNING,iTAR,hUND,jTAIN,iTH,fNET,gOSE,hT
fOLD,gNE,iSELF,gPEN BOX,hPOSE,fPIG,gLOW,gOWER,gRIVATE,hOFOUND,fRAIN,hP,hT,gED,gICE,hGHT OPEN BOX
hVER,gOOF,gUN,fSACRIFICIAL WINE,hLT,hY,gCHOLAR,hRIPT,gEAL,hCOND,hE,hLF,gHEEP,iLL,hOOT
iRT TAILED BIRD,mHREAD,gICKNESS,hLK,gKIN,gLASH,iVE,hICE,gMALL,gNOUT,gOUND,gPEAR,iECH,hIRIT,hOON
hROUT,gQUARE,gTAND,hEAM,iP,hONE,iP,jPING,gUN,gWEET,fTABLE,hLL,hNNED LEATHER,gEN,gIGER,hLE,gONGUE
hOTH,gRACK,hEE,hIPOD,gURBAN,iTLE,gWO,i HANDS,fUSE,fVALLEY,gILLAGE,fWALK,j ENCLOSURE,hTER,gEAPON,hST
gHEAT,hITE,gIND,iE,gOMAN,hRK,gRAP,hONG,fYELLOW,3NADA AI LENGTH MARK,8DIGIT EIGHT,eFIVE,fOUR,eNINE
eONE,eSEVEN,fIX,eTHREE,fWO,eZERO,8LENGTH MARK,aTTER A,gA,gI,gU,fBA,gHA,fCA,gHA,fDA,gDA,hHA,gHA,fE,gE
fFA,fGA,gHA,fHA,fI,gI,fJA,gHA,fKA,gHA,fLA,gLA,hLA,fMA,fNA,hKAARA POLLU,gGA,gNA,gYA,fO,gO,fPA,gHA,fRA
gRA,fSA,gHA,gSA,fTA,gHA,gTA,hHA,fU,gU,fVA,gOCALIC L,oL,nR,oR,fYA,8SIGN ANUSVARA,eVAGRAHA
dCANDRABINDU,dJIHVAMULIYA,dNUKTA,dSIDDHAM,ePACING CANDRABINDU,dUPADHMANIYA,dVIRAMA,fSARGA
8VOWEL SIGN AA,kI,kU,jE,kE,jI,kI,jO,kO,jU,kU,jVOCALIC L,sL,rR,sR,2TAKANA DIGRAPH KOTO
9ITERATION MARK,9LETTER A,hRCHAIC E,oWU,oYE,pI,gBA,hE,hI,hO,hU,gDA,hE,hI,hO,hU,gE,gGA,hE,hI,hO,hU
gHA,hE,hI,hO,hU,gI,gKA,hE,hI,hO,hU,gMA,hE,hI,iNNAN NASALIZED TONE-1,zNE-2,zNE-3,zNE-4,zNE-5,zNE-7
zNE-8,nTONE-2,s3,s4,s5,s7,s8,hO,hU,gN,hA,hE,hI,hO,hU,gO,gPA,hE,hI,hO,hU,gRA,hE,hI,hO,hU,gSA,hE,hI
hMALL A,mE,mHA,nE,nI,nO,nU,mI,mKA,nE,nU,mMU,mN,nU,mO,mRA,nE,nI,nO,nU,mSI,nU,mTO,nU,mU,mWA,nE,nI,nO
mYA,nO,nU,hO,hU,gTA,hE,hI,hO,hU,gU,gVA,hE,hI,hO,hU,gWA,hE,hI,hO,gYA,hO,hU,gZA,hE,hI,hO,hU
9MIDDLE DOT,9VOICED ITERATION MARK,8-HIRAGANA DOUBLE HYPHEN,iPROLONGED SOUND MARK
iSEMI-VOICED SOUND MARK,iVOICED SOUND MARK,2YAH LI DIGIT EIGHT,fFIVE,gOUR,fNINE,fONE,fSEVEN,gIX
fTHREE,gWO,fZERO,9LETTER A,gBA,gCA,gDA,gGA,gHA,hTA,gI,gKA,hHA,gLA,gMA,gNA,hGA,hYA,gOE,hO,gPA,hHA,gRA
gSA,hHA,gTA,hHA,gVA,gWA,gYA,gZA,9SIGN CWI,eSHYA,9TONE CALYA,j PLOPHU,ePLOPHU,9VOWEL E,gE,fO,fU,gE
1ELVIN SIGN,2Y,3BOARD,8 AND MOUSE,3CAP TEN,1HAROSHTHI DIGIT FOUR,hONE,hTHREE,iWO,bFRACTION ONE HALF
bLETTER A,iBA,jHA,iCA,jHA,iDA,jDA,kHA,jHA,iGA,jHA,iHA,iJA,iKA,jHA,jKA,iLA,iMA,iNA,jNA,jYA,iPA,jHA
iRA,iSA,jHA,jSA,iTA,jHA,jTA,kHA,kTA,lHA,iVA,jHA,iYA,iZA,bNUMBER ONE HUNDRED,mTHOUSAND,iTEN,jWENTY
bPUNCTUATION CIRCLE,oRESCENT BAR,nDANDA,oOT,pUBLE DANDA,nLINES,oOTUS,nMANGALAM,nSMALL CIRCLE
bSIGN ANUSVARA,gBAR ABOVE,gCAUDA,gDOT BELOW,iUBLE RING BELOW,gVISARGA,bVIRAMA,cOWEL LENGTH MARK
hSIGN E,mI,mO,mU,mVOCALIC R,2ITAN SMALL SCRIPT CHARACTER-18B00,y1,y2,y3,y4,y5,y6,y7,y8,y9,yA,yB,yC
yD,yE,yF,x10,y1,y2,y3,y4,y5,y6,y7,y8,y9,yA,yB,yC,yD,yE,yF,x20,y1,y2,y3,y4,y5,y6,y7,y8,y9,yA,yB,yC,yD
yE,yF,x30,y1,y2,y3,y4,y5,y6,y7,y8,y9,yA,yB,yC,yD,yE,yF,x40,y1,y2,y3,y4,y5,y6,y7,y8,y9,yA,yB,yC,yD,yE
yF,x50,y1,y2,y3,y4,y5,y6,y7,y8,y9,yA,yB,yC,yD,yE,yF,x60,y1,y2,y3,y4,y5,y6,y7,y8,y9,yA,yB,yC,yD,yE,yF
x70,y1,y2,y3,y4,y5,y6,y7,y8,y9,yA,yB,yC,yD,yE,yF,x80,y1,y2,y3,y4,y5,y6,y7,y8,y9,yA,yB,yC,yD,yE,yF
x90,y1,y2,y3,y4,y5,y6,y7,y8,y9,yA,yB,yC,yD,yE,yF,xA0,y1,y2,y3,y4,y5,y6,y7,y8,y9,yA,yB,yC,yD,yE,yF
xB0,y1,y2,y3,y4,y5,y6,y7,y8,y9,yA,yB,yC,yD,yE,yF,xC0,y1,y2,y3,y4,y5,y6,y7,y8,y9,yA,yB,yC,yD,yE,yF
xD0,y1,y2,y3,y4,y5,y6,y7,y8,y9,yA,yB,yC,yD,yE,yF,xE0,y1,y2,y3,y4,y5,y6,y7,y8,y9,yA,yB,yC,yD,yE,yF
xF0,y1,y2,y3,y4,y5,y6,y7,y8,y9,yA,yB,yC,yD,yE,yF,wC00,y1,y2,y3,y4,y5,y6,y7,y8,y9,yA,yB,yC,yD,yE,yF
x10,y1,y2,y3,y4,y5,y6,y7,y8,y9,yA,yB,yC,yD,yE,yF,x20,y1,y2,y3,y4,y5,y6,y7,y8,y9,yA,yB,yC,yD,yE,yF
x30,y1,y2,y3,y4,y5,y6,y7,y8,y9,yA,yB,yC,yD,yE,yF,x40,y1,y2,y3,y4,y5,y6,y7,y8,y9,yA,yB,yC,yD,yE,yF
x50,y1,y2,y3,y4,y5,y6,y7,y8,y9,yA,yB,yC,yD,yE,yF,x60,y1,y2,y3,y4,y5,y6,y7,y8,y9,yA,yB,yC,yD,yE,yF
x70,y1,y2,y3,y4,y5,y6,y7,y8,y9,yA,yB,yC,yD,yE,yF,x80,y1,y2,y3,y4,y5,y6,y7,y8,y9,yA,yB,yC,yD,yE,yF
x90,y1,y2,y3,y4,y5,y6,y7,y8,y9,yA,yB,yC,yD,yE,yF,xA0,y1,y2,y3,y4,y5,y6,y7,y8,y9,yA,yB,yC,yD,yE,yF
xB0,y1,y2,y3,y4,y5,y6,y7,y8,y9,yA,yB,yC,yD,yE,yF,xC0,y1,y2,y3,y4,y5,y6,y7,y8,y9,yA,yB,yC,yD,yE,yF
xD0,y1,y2,y3,y4,y5,kFILLER,2MER CURRENCY SYMBOL RIEL,6DIGIT EIGHT,cFIVE,dOUR,cNINE,cONE,cSEVEN,dIX
cTHREE,dWO,cZERO,6INDEPENDENT VOWEL LY,qY,oQAA,qI,qQ,qU,pE,pI,qI,pOO TYPE ONE,xTWO,pU,qK,qU,rV,oRY
qY,6LETTER BA,dCA,eHA,fO,eO,dDA,eO,dHA,dKA,eHA,fO,eO,dLA,eO,dMO,dNGO,eNO,eO,eYO,dPHA,fO,eO,dQA,dRO
dSA,eHA,eSO,dTA,eHA,fO,eO,eTHA,gO,dVO,dYO,6SIGN AHSDA,cTTHACAN,cVAKRAHASANYA,bBANTOC,dRIYOOSAN
dTHAMASAT,cEYYAL,bCAMNUC PII KUUH,cOENG,bKAKABAT,cHAN,cOOMUUT,bLEK TOO,bMUUSIKATOAN,bNIKAHIT
bPHNAEK MUAN,bREAHMUK,cOBAT,bSAMYOK SANNYA,bTOANDAKHIAT,cRIISAP,bVIRIAM,bYUUKALEAPINTU
7YMBOL BEI KOET,hROC,eUON KOET,iROC,dDAP KOET,hROC,g-BEI KOET,lROC,iUON KOET,mROC,hMUOY KOET,mROC
hPII KOET,lROC,iRAM KOET,mROC,dLEK ATTAK BEI,oUON,nMUOY,nPII,oRAM,r-BEI,tUON,sMUOY,sPII,nSON
dMUOY KOET,iROC,dPATHAMASAT,eII KOET,hROC,eRAM KOET,iROC,h-BEI KOET,mROC,jUON KOET,nROC,iMUOY KOET
nROC,iPII KOET,mROC,dTUTEYASAT,6VOWEL INHERENT AA,mQ,cSIGN AA,iE,iI,iU,hE,hI,iE,iI,hOE,iO,hU,iA,iU
hY,iA,iY,2OJKI ABBREVIATION SIGN,7DANDA,8OUBLE DANDA,eSECTION MARK,7LETTER A,fA,fI,fU,eBA,fBA,fHA
eCA,fHA,eDA,fDA,gDA,gHA,fHA,eE,eGA,fGA,fHA,eHA,eI,eJA,fJA,eKA,fHA,eLA,fLA,eMA,eNA,fGA,fNA,fYA,eO,ePA
fHA,eRA,eSA,eTA,fHA,fTA,gHA,eU,eVA,eYA,7SECTION MARK,8IGN ANUSVARA,cNUKTA,cSHADDA,dUKUN,cVIRAMA
7VOWEL SIGN AA,jI,jU,iE,iI,jI,iO,iU,7WORD SEPARATOR,2UDAWADI DIGIT EIGHT,gFIVE,hOUR,gNINE,gONE
gSEVEN,hIX,gTHREE,hWO,gZERO,aLETTER A,iA,iI,iU,hBA,iBA,iHA,hCA,iHA,hDA,iDA,jDA,jHA,iHA,hE,hGA,iGA
iHA,hHA,hI,iI,hJA,iHA,iJA,hKA,iHA,hLA,hMA,hNA,iGA,iNA,iYA,hO,hPA,iHA,hRA,iRA,hSA,iHA,hTA,iHA,iTA,jHA
hU,iU,hVA,hYA,aSIGN ANUSVARA,fNUKTA,fVIRAMA,aVOWEL SIGN AA,mI,mU,lE,lI,mI,lO,lU,mU,1IMONO,2P SIGN
2SS,4 MARK,4ING CAT FACE WITH CLOSED EYES,8FACE,c WITH CLOSED EYES,iSMILING EYES,2TE,2WIFRUIT
1NEELING PERSON,2OT,1OALA,2REAN STANDARD SYMBOL,1RONOS,0L B BAR SYMBOL,1AB COAT,3EL
2CROSSE STICK AND BALL,2DDER,3Y BEETLE,2NGUAGE TAG,2O CANCELLATION MARK,4DIGIT EIGHT,aFIVE,bOUR
aNINE,aONE,aSEVEN,bIX,aTHREE,bWO,aZERO,4ELLIPSIS,4HO MO,7NO,4KO LA,4LETTER BO,bCO,bDO,bFO FAY,fON
eSUNG,eTAM,bHO SUNG,eTAM,bKHMU GO,gNYO,dO SUNG,fTAM,cO,bLO,d LING,fOOT,bMO,bNGO,cO,cYO,bO,bPALI BHA
gCHA,gDDA,iHA,hHA,gGHA,gJHA,gLLA,gNNA,hYA,gTTA,iHA,cHO SUNG,fTAM,cO,bRO,bSANSKRIT SHA,lSA,cO SUNG
eTAM,bTHO SUNG,fTAM,cO,bWO,bYO,4NIGGAHITA,4SEMIVOWEL SIGN LO,jNYO,5IGN PALI VIRAMA,4TONE MAI CATAWA
dEK,dTHO,eI,4VOWEL SIGN A,gA,gI,gM,gY,fE,gI,fI,gI,fMAI KAN,kON,fO,fU,gU,fY,gY,2RGE BLUE CIRCLE
bDIAMOND,bSQUARE,7ROWN CIRCLE,cSQUARE,6CIRCLE,6DOWN TACK,6GREEN CIRCLE,cSQUARE
6LEFT TRIANGLE OPERATOR,6ONE DOT OVER TWO DOTS PUNCTUATION,aRING OVER TWO RINGS PUNCTUATION
7RANGE CIRCLE,dDIAMOND,dSQUARE,6PURPLE CIRCLE,dSQUARE,6RED CIRCLE,aSQUARE
6TRIPLE VERTICAL BAR OPERATOR,7WO DOTS OVER ONE DOT PUNCTUATION,aRINGS OVER ONE RING PUNCTUATION
6UP TACK,6YELLOW CIRCLE,dSQUARE,5R THAN,b OR EQUAL TO,3I SIGN,2ST QUARTER MOON,h SYMBOL,iWITH FACE
2TIN CAPITAL LETTER A,m WITH ACUTE,sBREVE,x AND ACUTE,zND DOT BELOW,zND GRAVE,zND HOOK ABOVE
zND TILDE,sCARON,tIRCUMFLEX,zLEX AND ACUTE,zLEX AND DOT BELOW,zLEX AND GRAVE,zLEX AND HOOK ABOVE
zLEX AND TILDE,sDIAERESIS,zIS AND MACRON,tOT ABOVE,zVE AND MACRON,wBELOW,uUBLE GRAVE,sGRAVE
sHOOK ABOVE,sINVERTED BREVE,sMACRON,sOGONEK,sRING ABOVE,zOVE AND ACUTE,xBELOW,sSTROKE,sTILDE,mA,mE
n WITH ACUTE,tMACRON,mFRICAN D,mLPHA,mNGLICANA W,mO,mU,mV,n WITH HORIZONTAL BAR,mY,lB
m WITH DOT ABOVE,wBELOW,sFLOURISH,sHOOK,sLINE BELOW,sSTROKE,sTOPBAR,mETA,mROKEN L,lC,m WITH ACUTE
sBAR,sCARON,tEDILLA,z AND ACUTE,tIRCUMFLEX,sDOT ABOVE,sHOOK,sPALATAL HOOK,sSTROKE,mHI
mLOSED INSULAR G,mON,mUATRILLO,u WITH COMMA,lD,m WITH CARON,tEDILLA,tIRCUMFLEX BELOW,sDOT ABOVE
wBELOW,sHOOK,sLINE BELOW,sSHORT STROKE OVERLAY,tMALL LETTER Z,zETTER Z WITH CARON,tTROKE,sTOPBAR,mZ
n WITH CARON,lE,m WITH ACUTE,sBREVE,sCARON,tEDILLA,z AND BREVE,tIRCUMFLEX,zLEX AND ACUTE
zLEX AND DOT BELOW,zLEX AND GRAVE,zLEX AND HOOK ABOVE,zLEX AND TILDE,zLEX BELOW,sDIAERESIS,tOT ABOVE
wBELOW,uUBLE GRAVE,sGRAVE,sHOOK ABOVE,sINVERTED BREVE,sMACRON,y AND ACUTE,zAND GRAVE,sOGONEK,sSTROKE
sTILDE,x BELOW,mGYPTOLOGICAL AIN,zALEF,mNG,mSH,mT,nH,mZH,o REVERSED,pWITH CARON,lF,m WITH DOT ABOVE
sHOOK,sSTROKE,lG,m WITH ACUTE,sBREVE,sCARON,tEDILLA,tIRCUMFLEX,sDOT ABOVE,sHOOK,sMACRON
sOBLIQUE STROKE,sSTROKE,mAMMA,mHA,mLOTTAL A,tI,tSTOP,tU,lH,m WITH BREVE BELOW,sCARON,tEDILLA
tIRCUMFLEX,sDESCENDER,tIAERESIS,tOT ABOVE,wBELOW,sHOOK,sSTROKE,mALF H,mENG,mWAIR,lI,m WITH ACUTE
sBREVE,sCARON,tIRCUMFLEX,sDIAERESIS,zIS AND ACUTE,tOT ABOVE,wBELOW,uUBLE GRAVE,sGRAVE,sHOOK ABOVE
sINVERTED BREVE,sMACRON,sOGONEK,sSTROKE,sTILDE,x BELOW,mNSULAR D,tF,tG,tR,tS,tT,mOTA,mS,lJ
m WITH CIRCUMFLEX,tROSSED-TAIL,sSTROKE,lK,m WITH ACUTE,sCARON,tEDILLA,sDESCENDER,tIAGONAL STROKE
tOT BELOW,sHOOK,sLINE BELOW,sOBLIQUE STROKE,sSTROKE,y AND DIAGONAL STROKE,lL,m WITH ACUTE,sBAR,tELT
sCARON,tEDILLA,tIRCUMFLEX BELOW,sDOT BELOW,zOW AND MACRON,uUBLE BAR,sHIGH STROKE,sLINE BELOW
sMIDDLE DOT,zTILDE,sSMALL LETTER J,tTROKE,mJ,lM,m WITH ACUTE,sDOT ABOVE,wBELOW,sHOOK,mIDDLE SCOTS S
r-WELSH LL,yV,lN,m WITH ACUTE,sCARON,tEDILLA,tIRCUMFLEX BELOW,sDESCENDER,tOT ABOVE,wBELOW,sGRAVE
sLEFT HOOK,tINE BELOW,tONG RIGHT LEG,sOBLIQUE STROKE,sSMALL LETTER J,sTILDE,mJ,lO,m WITH ACUTE
sBREVE,sCARON,tIRCUMFLEX,zLEX AND ACUTE,zLEX AND DOT BELOW,zLEX AND GRAVE,zLEX AND HOOK ABOVE
zLEX AND TILDE,sDIAERESIS,zIS AND MACRON,tOT ABOVE,zVE AND MACRON,wBELOW,uUBLE ACUTE,zGRAVE,sGRAVE
sHOOK ABOVE,uRN,w AND ACUTE,zD DOT BELOW,zD GRAVE,zD HOOK ABOVE,zD TILDE,sINVERTED BREVE
sLONG STROKE OVERLAY,uOP,sMACRON,y AND ACUTE,zAND GRAVE,tIDDLE TILDE,sOGONEK,y AND MACRON,sSTROKE
y AND ACUTE,sTILDE,x AND ACUTE,zND DIAERESIS,zND MACRON,mI,mLD POLISH O,mMEGA,mO,mPEN E,qO,mU,lP
m WITH ACUTE,sDOT ABOVE,sFLOURISH,sHOOK,sSQUIRREL TAIL,tTROKE,y THROUGH DESCENDER,lQ
m WITH DIAGONAL STROKE,sSTROKE THROUGH DESCENDER,lR,m ROTUNDA,nWITH ACUTE,sCARON,tEDILLA,sDOT ABOVE
wBELOW,zOW AND MACRON,uUBLE GRAVE,sINVERTED BREVE,sLINE BELOW,sOBLIQUE STROKE,sSTROKE,sTAIL
mEVERSED C WITH DOT,uE,uHALF H,uOPEN E,mUM ROTUNDA,lS,m WITH ACUTE,x AND DOT ABOVE,sCARON
x AND DOT ABOVE,tEDILLA,tIRCUMFLEX,tOMMA BELOW,sDOT ABOVE,wBELOW,zOW AND DOT ABOVE,sHOOK
sOBLIQUE STROKE,sSHORT STROKE OVERLAY,tWASH TAIL,mALTILLO,mCHWA,nRIPT G,mHARP S,mIGMOID S
mMALL CAPITAL I,rQ WITH HOOK TAIL,lT,m WITH CARON,tEDILLA,tIRCUMFLEX BELOW,tOMMA BELOW
sDIAGONAL STROKE,tOT ABOVE,wBELOW,sHOOK,sLINE BELOW,sRETROFLEX HOOK,sSTROKE,mHORN,q WITH STROKE
zOKE THROUGH DESCENDER,mONE FIVE,qSIX,qTWO,mRESILLO,mURNED A,tLPHA,sH,sINSULAR G,sK,sL,sM,sT,sV,mZ
lU,m BAR,nWITH ACUTE,sBREVE,sCARON,tIRCUMFLEX,zLEX BELOW,sDIAERESIS,zIS AND ACUTE,zIS AND CARON
zIS AND GRAVE,zIS AND MACRON,zIS BELOW,tOT BELOW,uUBLE ACUTE,zGRAVE,sGRAVE,sHOOK ABOVE,uRN
w AND ACUTE,zD DOT BELOW,zD GRAVE,zD HOOK ABOVE,zD TILDE,sINVERTED BREVE,sMACRON,y AND DIAERESIS
sOGONEK,sRING ABOVE,sSTROKE,sTILDE,x AND ACUTE,yBELOW,mPSILON,lV,m WITH DIAGONAL STROKE,tOT BELOW
sHOOK,sTILDE,mEND,mISIGOTHIC Z,mOLAPUK AE,tOE,tUE,mY,lW,m WITH ACUTE,sCIRCUMFLEX,sDIAERESIS
tOT ABOVE,wBELOW,sGRAVE,sHOOK,mYNN,lX,m WITH DIAERESIS,tOT ABOVE,lY,m WITH ACUTE,sCIRCUMFLEX
sDIAERESIS,tOT ABOVE,wBELOW,sGRAVE,sHOOK,w ABOVE,sLOOP,sMACRON,sSTROKE,sTILDE,mOGH,lZ,m WITH ACUTE
sCARON,tIRCUMFLEX,sDESCENDER,tOT ABOVE,wBELOW,sHOOK,sLINE BELOW,sPALATAL HOOK,sSTROKE,tWASH TAIL
fIGATURE IJ,nOE,7ROSS,6EPIGRAPHIC LETTER ARCHAIC M,oI LONGA,pNVERTED M,oREVERSED F,xP,oSIDEWAYS I
6LETTER AIN,eLVEOLAR CLICK,dBIDENTAL PERCUSSIVE,fLABIAL CLICK,mPERCUSSIVE,dDENTAL CLICK
dGLOTTAL STOP,p WITH STROKE,dINVERTED GLOTTAL STOP,y WITH CURL,zWITH STROKE,dLATERAL CLICK
dPHARYNGEAL VOICED FRICATIVE,dRETROFLEX CLICK,s WITH RETROFLEX HOOK,fVERSED ESH LOOP
mGLOTTAL STOP WITH STROKE,dSINOLOGICAL DOT,eMALL CAPITAL A,sE,rB,sARRED B,rC,rD,rE,sTH,sZH,rF,rG
s WITH HOOK,rH,rI,sNVERTED R,rJ,rK,rL,s WITH BELT,ySTROKE,rM,rN,rO,sE,sPEN O,sU,rP,rQ,rR
s WITH RIGHT LEG,sEVERSED N,z R,sUM,rS,rT,sURNED E,yG,yK,yM,yR,rU,rV,rW,rY,rZ,eTRETCHED C
o WITH CURL,dTWO WITH STROKE,dVOICED LARYNGEAL SPIRANT,dWYNN,dYR,6SMALL CAPITAL LETTER I WITH STROKE
rU WITH STROKE,cLETTER A,k REVERSED-SCHWA,lWITH ACUTE,qBREVE,v AND ACUTE,z DOT BELOW,z GRAVE
z HOOK ABOVE,z TILDE,qCARON,rIRCUMFLEX,zX AND ACUTE,zX AND DOT BELOW,zX AND GRAVE,zX AND HOOK ABOVE
zX AND TILDE,qDIAERESIS,z AND MACRON,rOT ABOVE,z AND MACRON,uBELOW,sUBLE GRAVE,qGRAVE,qHOOK ABOVE
qINVERTED BREVE,qMACRON,qOGONEK,qRETROFLEX HOOK,rIGHT HALF RING,sNG ABOVE,zE AND ACUTE,vBELOW
qSTROKE,qTILDE,kA,kE,l WITH ACUTE,rMACRON,kLPHA,o WITH RETROFLEX HOOK,kNGLICANA W,kO,kU,kV
l WITH HORIZONTAL BAR,kY,jB,k WITH DOT ABOVE,uBELOW,qFLOURISH,qHOOK,qLINE BELOW,qMIDDLE TILDE
qPALATAL HOOK,qSTROKE,qTOPBAR,kARRED ALPHA,qE,qO,lSELINE ESH,kETA,kLACKLETTER E,vO,w WITH STROKE
kOTTOM HALF O,kROKEN L,jC,k WITH ACUTE,qBAR,qCARON,rEDILLA,x AND ACUTE,rIRCUMFLEX,rURL,qDOT ABOVE
qHOOK,qPALATAL HOOK,qRETROFLEX HOOK,qSTROKE,kHI,m WITH LOW LEFT SERIF,wRIGHT RING,kLOSED INSULAR G
qOMEGA,rPEN E,qREVERSED OPEN E,kON,kUATRILLO,s WITH COMMA,jD,k WITH CARON,rEDILLA,rIRCUMFLEX BELOW
rURL,qDOT ABOVE,uBELOW,qHOOK,u AND TAIL,qLINE BELOW,qMIDDLE TILDE,qPALATAL HOOK
qSHORT STROKE OVERLAY,rTROKE,qTAIL,rOPBAR,kB DIGRAPH,kELTA,lZH DIGRAPH,v WITH PALATAL HOOK
zH RETROFLEX HOOK,kOTLESS I,rJ,s WITH STROKE,zTROKE AND HOOK,lUBLE R,r WITH CROSSED-TAIL,qTHORN
qWYNN,kUM,kZ,l DIGRAPH,t WITH CURL,zRETROFLEX HOOK,mWITH CARON,jE,k WITH ACUTE,qBREVE,qCARON,rEDILLA
x AND BREVE,rIRCUMFLEX,zX AND ACUTE,zX AND DOT BELOW,zX AND GRAVE,zX AND HOOK ABOVE,zX AND TILDE
zX BELOW,qDIAERESIS,rOT ABOVE,uBELOW,sUBLE GRAVE,qFLOURISH,qGRAVE,qHOOK ABOVE,qINVERTED BREVE
qMACRON,w AND ACUTE,zD GRAVE,qNOTCH,qOGONEK,qRETROFLEX HOOK,qSTROKE,qTILDE,v BELOW,kGYPTOLOGICAL AIN
yLEF,kNG,m WITH CROSSED-TAIL,sPALATAL HOOK,kSH,m WITH CURL,sDOUBLE BAR,zBAR AND CURL,sPALATAL HOOK
sRETROFLEX HOOK,kT,lH,kZH,m REVERSED,nWITH CARON,tURL,sPALATAL HOOK,sRETROFLEX HOOK,sTAIL,jF
k WITH DOT ABOVE,qHOOK,qMIDDLE TILDE,qPALATAL HOOK,qSTROKE,kENG DIGRAPH,v WITH TRILL,jG,k WITH ACUTE
qBREVE,qCARON,rEDILLA,rIRCUMFLEX,qDOT ABOVE,qHOOK,qMACRON,qOBLIQUE STROKE,qPALATAL HOOK,qSTROKE
kAMMA,kHA,kLOTTAL A,rI,rSTOP,rU,jH,k WITH BREVE BELOW,qCARON,rEDILLA,rIRCUMFLEX,qDESCENDER,rIAERESIS
rOT ABOVE,uBELOW,qHOOK,qLINE BELOW,qPALATAL HOOK,qSTROKE,kALF H,kENG,n WITH HOOK,kV,jI,k WITH ACUTE
qBREVE,qCARON,rIRCUMFLEX,qDIAERESIS,z AND ACUTE,rOT BELOW,sUBLE GRAVE,qGRAVE,qHOOK ABOVE
qINVERTED BREVE,qMACRON,qOGONEK,qRETROFLEX HOOK,qSTROKE,w AND RETROFLEX HOOK,qTILDE,v BELOW
kNSULAR D,rF,rG,rR,rS,rT,lVERTED ALPHA,sOE,kOTA,n WITH STROKE,mIFIED E,kS,jJ,k WITH CARON,rIRCUMFLEX
rROSSED-TAIL,qSTROKE,jK,k WITH ACUTE,qCARON,rEDILLA,qDESCENDER,rIAGONAL STROKE,rOT BELOW,qHOOK
qLINE BELOW,qOBLIQUE STROKE,qPALATAL HOOK,qSTROKE,w AND DIAGONAL STROKE,kRA,jL,k WITH ACUTE,qBAR
rELT,u AND PALATAL HOOK,qCARON,rEDILLA,rIRCUMFLEX BELOW,rURL,qDOT BELOW,z AND MACRON,sUBLE BAR
xMIDDLE TILDE,qFISHHOOK,qHIGH STROKE,qINVERTED LAZY S,qLINE BELOW,qMIDDLE DOT,xRING,xTILDE
qPALATAL HOOK,qRETROFLEX HOOK,z HOOK AND BELT,qSTROKE,kAMBDA WITH STROKE,kENIS F,lZH
n WITH RETROFLEX HOOK,kJ,kONG S,p WITH DIAGONAL STROKE,wOT ABOVE,vHIGH STROKE,kS DIGRAPH,kUM
kZ DIGRAPH,jM,k WITH ACUTE,qCROSSED-TAIL,qDOT ABOVE,uBELOW,qHOOK,qMIDDLE TILDE,qPALATAL HOOK
kIDDLE SCOTS S,p-WELSH LL,wV,kUM,jN,k PRECEDED BY APOSTROPHE,lWITH ACUTE,qCARON,rEDILLA
rIRCUMFLEX BELOW,rROSSED-TAIL,rURL,qDESCENDER,rOT ABOVE,uBELOW,qGRAVE,qLEFT HOOK,rINE BELOW
rONG RIGHT LEG,qMIDDLE TILDE,qOBLIQUE STROKE,qPALATAL HOOK,qRETROFLEX HOOK,qTILDE,kJ,kUM,jO
k WITH ACUTE,qBREVE,qCARON,rIRCUMFLEX,zX AND ACUTE,zX AND DOT BELOW,zX AND GRAVE,zX AND HOOK ABOVE
zX AND TILDE,qDIAERESIS,z AND MACRON,rOT ABOVE,z AND MACRON,uBELOW,sUBLE ACUTE,xGRAVE,qGRAVE
qHOOK ABOVE,sRN,u AND ACUTE,zDOT BELOW,zGRAVE,zHOOK ABOVE,zTILDE,qINVERTED BREVE
qLONG STROKE OVERLAY,sOP,sW RING INSIDE,qMACRON,w AND ACUTE,zD GRAVE,qOGONEK,w AND MACRON
qRETROFLEX HOOK,qSTROKE,w AND ACUTE,qTILDE,v AND ACUTE,z DIAERESIS,z MACRON,kI,kLD POLISH O,kMEGA,kO
kPEN E,p WITH RETROFLEX HOOK,oO,p WITH RETROFLEX HOOK,vSTROKE,pE,kU,jP,k WITH ACUTE,qDOT ABOVE
qFLOURISH,qHOOK,qMIDDLE TILDE,qPALATAL HOOK,qSQUIRREL TAIL,rTROKE,w THROUGH DESCENDER,kHI,jQ
k WITH DIAGONAL STROKE,qHOOK,u TAIL,qSTROKE THROUGH DESCENDER,kP DIGRAPH,jR,k ROTUNDA,lWITH ACUTE
qCARON,rEDILLA,rROSSED-TAIL,qDOT ABOVE,uBELOW,z AND MACRON,sUBLE GRAVE,qFISHHOOK,y AND MIDDLE TILDE
zAND PALATAL HOOK,qINVERTED BREVE,qLINE BELOW,rONG LEG,qMIDDLE TILDE,qOBLIQUE STROKE,qPALATAL HOOK
qSTROKE,qTAIL,pOUT HANDLE,kAMS HORN,kEVERSED C,t WITH DOT,sE,tNG,sHALF H,sK,sOPEN E,y WITH HOOK
zWITH RETROFLEX HOOK,sR WITH FISHHOOK,sSCRIPT G,kUM,m ROTUNDA,jS,k WITH ACUTE,v AND DOT ABOVE,qCARON
v AND DOT ABOVE,rEDILLA,rIRCUMFLEX,rOMMA BELOW,rURL,qDOT ABOVE,uBELOW,z AND DOT ABOVE,qHOOK
qMIDDLE TILDE,qOBLIQUE STROKE,qPALATAL HOOK,qSHORT STROKE OVERLAY,rWASH TAIL,kAKHA YAT,lLTILLO,kCHWA
o WITH HOOK,uRETROFLEX HOOK,lRIPT G,r WITH CROSSED-TAIL,qR,r WITH RING,kHARP S
kIDEWAYS DIAERESIZED U,sO,t WITH STROKE,tPEN O,sTURNED M,sU,lGMOID S,kQUAT REVERSED ESH,kTIRRUP R,jT
k WITH CARON,rEDILLA,rIRCUMFLEX BELOW,rOMMA BELOW,rURL,qDIAERESIS,tGONAL STROKE,rOT ABOVE,uBELOW
qHOOK,u AND RETROFLEX HOOK,qLINE BELOW,qMIDDLE TILDE,qPALATAL HOOK,qRETROFLEX HOOK,qSTROKE
kAILLESS PHI,kC DIGRAPH WITH CURL,kESH DIGRAPH,v WITH PALATAL HOOK,zH RETROFLEX HOOK
kH WITH STRIKETHROUGH,lORN,o WITH STROKE,zE THROUGH DESCENDER,kONE FIVE,oSIX,oTWO,lP HALF O,kRESILLO
kS DIGRAPH,t WITH RETROFLEX HOOK,kUM,lRNED A,rE,rLPHA,qDELTA,qE,qG,qH,r WITH FISHHOOK
zSHHOOK AND TAIL,qI,rNSULAR G,qK,qL,qM,r WITH LONG LEG,qO OPEN-O,y WITH STROKE,rE
s WITH HORIZONTAL STROKE,ySTROKE,rPEN E,qR,r WITH HOOK,xLONG LEG,zNG LEG AND RETROFLEX HOOK
xMIDDLE TILDE,xPALATAL HOOK,xTAIL,qT,r WITH CURL,qUI,qV,qW,qY,r WITH BELT,kZ,jU,k BAR
o WITH SHORT RIGHT LEG,lWITH ACUTE,qBREVE,qCARON,rIRCUMFLEX,zX BELOW,qDIAERESIS,z AND ACUTE
z AND CARON,z AND GRAVE,z AND MACRON,z BELOW,rOT BELOW,sUBLE ACUTE,xGRAVE,qGRAVE,qHOOK ABOVE,sRN
u AND ACUTE,zDOT BELOW,zGRAVE,zHOOK ABOVE,zTILDE,qINVERTED BREVE,qLEFT HOOK,qMACRON,w AND DIAERESIS
qOGONEK,qRETROFLEX HOOK,rING ABOVE,qSHORT RIGHT LEG,rTROKE,qTILDE,v AND ACUTE,wBELOW,kE,kI,kM,kO
kPSILON,q WITH STROKE,jV,k WITH CURL,qDIAGONAL STROKE,rOT BELOW,qHOOK,qPALATAL HOOK,qRIGHT HOOK
qTILDE,kEND,kISIGOTHIC Z,kOLAPUK AE,rOE,rUE,kY,jW,k WITH ACUTE,qCIRCUMFLEX,qDIAERESIS,rOT ABOVE
uBELOW,qGRAVE,qHOOK,qRING ABOVE,jX,k WITH DIAERESIS,rOT ABOVE,qLONG LEFT LEG
z LEG AND LOW RIGHT RING,z LEG WITH SERIF,sW RIGHT RING,qPALATAL HOOK,jY,k WITH ACUTE,qCIRCUMFLEX
qDIAERESIS,rOT ABOVE,uBELOW,qGRAVE,qHOOK,u ABOVE,qLOOP,qMACRON,qRING ABOVE,qSHORT RIGHT LEG,rTROKE
qTILDE,kOGH,jZ,k WITH ACUTE,qCARON,rIRCUMFLEX,rURL,qDESCENDER,rOT ABOVE,uBELOW,qHOOK,qLINE BELOW
qMIDDLE TILDE,qPALATAL HOOK,qRETROFLEX HOOK,qSTROKE,rWASH TAIL,dIGATURE FF,nI,nL,mI,mL,lIJ,lLONG S T
lOE,lST,7UBSCRIPT SMALL LETTER A,tE,tH,tI,tJ,tK,tL,tM,tN,tO,tP,tR,tS,uCHWA,tT,tU,tV,tX
1EAF FLUTTERING IN WIND,4Y GREEN,2DGER,2FT AND LOWER AND RIGHT TRIANGULAR THREE QUARTERS BLOCK
fONE EIGHTH BLOCK,9RIGHT DOUBLE TURNSTILE,fTACK,gRIANGULAR HALF BLOCK
9UPPER AND RIGHT TRIANGULAR THREE QUARTERS BLOCK,fONE EIGHTH BLOCK,7GER BUBBLE,8LE BRACKET
i WITH DOT,6RC LESS-THAN BRACKET,7ROW WITH CIRCLED PLUS,gSMALL CIRCLE
5BARB DOWN RIGHT BARB DOWN HARPOON,qUP HARPOON,aUP RIGHT BARB DOWN HARPOON,oUP HARPOON
6LACK LENTICULAR BRACKET,bTORTOISE SHELL BRACKET,5CEILING,6LOSED ENTRY,6ORNER BRACKET,6URLY BRACKET
i LOWER HOOK,jMIDDLE PIECE,jUPPER HOOK,5DOTTED SUBSTITUTION BRACKET,7UBLE ANGLE BRACKET,cPARENTHESIS
cQUOTATION MARK,cWIGGLY FENCE,5FISH TAIL,7VE EIGHTHS BLOCK,6LOOR,5HALF BLACK CIRCLE,gSTAR,cOCK
aCIRCLE,g WITH DOT,mFOUR DOTS,mTHREE DOTS,nWO DOTS,aFOLDER
aINVERSE MEDIUM SHADE AND RIGHT HALF BLOCK,aMEDIUM SHADE,aRUNNING MAN,7ND TELEPHONE RECEIVER
5LOW PARAPHRASE BRACKET,6UGGAGE,5MULTIMAP,5NORMAL FACTOR SEMIDIRECT PRODUCT,5ONE EIGHTH BLOCK
9QUARTER BLOCK,6UTER JOIN,5PARENTHESIS,g EXTENSION,hLOWER HOOK,hUPPER HOOK,5RAISED OMISSION BRACKET
6IGHT ARROW,g THROUGH SMALL CIRCLE,hWITH DOUBLE VERTICAL STROKE,mSTROKE,mVERTICAL STROKE
bBLACK ARROW,bDOUBLE ARROW,n WITH STROKE,tVERTICAL STROKE,bOPEN-HEADED ARROW,bSANS-SERIF ARROW
bTRIANGLE-HEADED ARROW,bWAVE ARROW,cHITE ARROW,5S-SHAPED BAG DELIMITER,6EMIDIRECT PRODUCT
7VEN EIGHTHS BLOCK,6IDEWAYS U BRACKET,7NGLE QUOTATION MARK,6PEECH BUBBLE,6QUARE BRACKET,j EXTENSION
kLOWER CORNER,kUPPER CORNER,kWITH DOUBLE STROKE,pQUILL,pSTROKE,pTICK IN BOTTOM CORNER,xTOP CORNER
pUNDERBAR,6UBSTITUTION BRACKET,5TACK,6HIRD WHITE RIGHT POINTING INDEX,7OUGHT BUBBLE
7REE EIGHTHS BLOCK,bQUARTERS BLOCK,6ORTOISE SHELL BRACKET,6RANSPOSITION BRACKET
7IANGLE BESIDE VERTICAL BAR,bULAR ONE QUARTER BLOCK,5VERTICAL BAR WITH QUILL,fOX LINE
5WHITE CORNER BRACKET,cURLY BRACKET,bLENTICULAR BRACKET,bPARENTHESIS,bSQUARE BRACKET
bTORTOISE SHELL BRACKET,6IGGLY FENCE,6RITING HAND,4-FACING ARMENIAN ETERNITY SIGN,cFIST,cSVASTI SIGN
n WITH DOTS,5HANDED INTERLACED PENTAGRAM,5POINTING ANGLE BRACKET,eCURVED ANGLE BRACKET
eDOUBLE ANGLE QUOTATION MARK,eMAGNIFYING GLASS,5SHADED WHITE RIGHTWARDS ARROW
6IDE ARC ANTICLOCKWISE ARROW,5TO-RIGHT EMBEDDING,eISOLATE,eMARK,eOVERRIDE,4WARDS ARROW
f ABOVE ALMOST EQUAL TO,mREVERSE ALMOST EQUAL TO,uTILDE OPERATOR,mSHORT RIGHTWARDS ARROW
mTILDE OPERATOR,hND UPPER AND LOWER ONE EIGHTH BLOCK,gFROM BAR,o TO BLACK DIAMOND
gOVER RIGHTWARDS ARROW,gTHROUGH LESS-THAN,oSUBSET,oX,hO BAR,m OVER RIGHTWARDS ARROW TO BAR
kLACK DIAMOND,gWITH DOTTED STEM,nUBLE VERTICAL STROKE,lEQUILATERAL ARROWHEAD,lHOOK
lLARGE TRIANGLE ARROWHEAD,mOOP,lMEDIUM TRIANGLE ARROWHEAD,lNOTCHED TAIL,lPLUS BELOW
lSMALL EQUILATERAL ARROWHEAD,rTRIANGLE ARROWHEAD,mTROKE,lTAIL,p WITH DOUBLE VERTICAL STROKE
vVERTICAL STROKE,mIP DOWNWARDS,pUPWARDS,lVERTICAL STROKE,f-TAIL,aBACK-TILTED SHADOWED WHITE ARROW
bLACK ARROW,gCIRCLED WHITE ARROW,bOTTOM-SHADED WHITE ARROW,aCOMPRESSED ARROW,aDASHED ARROW
bOUBLE ARROW,m FROM BAR,nWITH STROKE,sVERTICAL STROKE,m-TAIL,hDASH ARROW,aFINGER-POST ARROW
bRONT-TILTED SHADOWED WHITE ARROW,aHAND,cRPOON OVER RIGHTWARDS HARPOON
iWITH BARB DOWN ABOVE RIGHTWARDS HARPOON WITH BARB DOWN,xBELOW LONG DASH,xFROM BAR,xTO BAR,wWARDS
sUP ABOVE LEFTWARDS HARPOON WITH BARB DOWN,zE LONG DASH,zE RIGHTWARDS HARPOON WITH BARB UP,vFROM BAR
vTO BAR,uWARDS,bEAVY ARROW,gCOMPRESSED ARROW,aLEFT-SHADED WHITE ARROW,aOPEN-HEADED ARROW
aPAIRED ARROWS,aQUADRUPLE ARROW,aRIGHT-SHADED WHITE ARROW,bOCKET,aSANS-SERIF ARROW,bQUARED ARROW
dIGGLE ARROW,aTOP SHADED WHITE ARROW,bRIANGLE ARROWHEAD,i-HEADED ARROW
v OVER RIGHTWARDS TRIANGLE-HEADED ARROW,wTO BAR,wWITH BOLD SHAFT,zH DOUBLE HORIZONTAL STROKE
zH DOUBLE VERTICAL STROKE,zH HEAVY SHAFT,zH LONG TIP DOWNWARDS,zH LONG TIP UPWARDS,zH MEDIUM SHAFT
zH NARROW SHAFT,zH VERY HEAVY SHAFT,qDASHED ARROW,qPAIRED ARROWS,dPLE ARROW,hDASH ARROW
bWO HEADED ARROW,d-HEADED ARROW FROM BAR,rWITH DOUBLE VERTICAL STROKE,wTAIL
zL WITH DOUBLE VERTICAL STROKE,zL WITH VERTICAL STROKE,xRIANGLE ARROWHEADS,wVERTICAL STROKE
lTRIPLE DASH ARROW,aWAVE ARROW,bHITE ARROW,l WITHIN TRIANGLE ARROWHEAD,2G,2MON,2O,3PARD
2PCHA CONSONANT SIGN K,nANG,mL,mM,mN,nYIN-DO,mP,mR,mT,7DIGIT EIGHT,dFIVE,eOUR,dNINE,dONE,dSEVEN,eIX
dTHREE,eWO,dZERO,7LETTER A,eBA,fLA,eCA,fHA,eDA,fDA,fZA,eFA,fLA,eGA,fLA,eHA,fLA,eJA,eKA,fHA,fLA,eLA
eMA,fLA,eNA,fGA,fYA,ePA,fHA,fLA,eRA,eSA,fHA,eTA,fHA,fSA,gHA,fTA,gHA,eVA,eWA,eYA,7PUNCTUATION CER-WA
jNYET THYOOM TA-ROL,jTA-ROL,kSHOOK,p CER-WA,7SIGN NUKTA,cRAN,8UBJOINED LETTER RA,oYA,7VOWEL SIGN AA
iE,iI,iO,jO,iU,jU,2SS-THAN ABOVE DOUBLE-LINE EQUAL ABOVE GREATER-THAN
gGREATER-THAN ABOVE DOUBLE-LINE EQUAL,gLEFTWARDS ARROW,gSIMILAR ABOVE GREATER-THAN,oOR EQUAL
hLANTED EQUAL ABOVE GREATER-THAN ABOVE SLANTED EQUAL,bND NOT APPROXIMATE,eSINGLE-LINE NOT EQUAL TO
aBUT NOT EQUAL TO,lIVALENT TO,aCLOSED BY CURVE,p ABOVE SLANTED EQUAL,aEQUAL TO OR GREATER-THAN
aOR APPROXIMATE,dEQUAL TO,gIVALENT TO,dGREATER-THAN,dSLANTED EQUAL TO,t WITH DOT ABOVE
zDOT ABOVE RIGHT,zDOT INSIDE,bVER EQUAL TO,aSIGN,aWITH CIRCLE INSIDE,fDOT,fQUESTION MARK ABOVE
2VEL SLIDER,1F,1IBRA,2GATURE OPEN ET ORNAMENT,3HT CHECK MARK,6EIGHT SPOKED ASTERISK
6FIVE POINTED BLACK STAR,bSPOKED ASTERISK,7OUR POINTED BLACK CUSP,pSTAR,6GREEK CROSS
6LEFT TORTOISE SHELL BRACKET ORNAMENT,6RAIL,7IGHT TORTOISE SHELL BRACKET ORNAMENT,6SALTIRE,7HADE
7IX SPOKED ASTERISK,6THREE POINTED BLACK STAR,7WELVE POINTED BLACK STAR,6VERTICAL BAR,6WHITE SQUARE
5NING,9 MOOD,e BUBBLE,2MBU DIGIT EIGHT,cFIVE,dOUR,cNINE,cONE,cSEVEN,dIX,cTHREE,dWO,cZERO
6EXCLAMATION MARK,6LETTER BA,eHA,dCA,eHA,dDA,eHA,dGA,eHA,eYAN,dHA,dJA,eHA,dKA,eHA,dLA,dMA,dNA,eGA
dPA,eHA,dRA,dSA,eHA,eSA,dTA,eHA,eRA,dWA,dYA,fN,6QUESTION MARK,6SIGN KEMPHRENG,bLOO,bMUKPHRENG,bSA-I
7MALL LETTER ANUSVARA,jKA,jLA,jMA,jNA,kGA,jPA,jRA,jTA,7UBJOINED LETTER RA,nWA,nYA,6VOWEL SIGN A,iI
iU,hE,iE,hI,hO,iO,hU,b-CARRIER LETTER,3ITED LIABILITY SIGN,2NE FEED
5INTEGRATION NOT INCLUDING THE POLE,hWITH RECTANGULAR PATH AROUND POLE
mSEMICIRCULAR PATH AROUND POLE,5SEPARATOR,5TABULATION,f SET,4AR A SIGN A028B,f100-102,g20B,g31C,f301
h2,h3,h4,h5,h6,h7,h8,h9A,iB,iC,g10,h1,h2,h3A,iB,iC,h4,h5,h6,h7,h8,h9,g20,h1,h2,h3,h4,h5,h6,h7,h8,h9
g30,h1,h2,h3,h4,h5,h6,h7,h8,h9,g40,h1,h2,h3,h4,h5,h6,h7,h8,h9,g50,h1,h2,h3,h4,h5,h6,h7,h8,h9,g60,h1
h2,h3,h4,h5,h6,h7,h8,h9,g70,h1,f400-VAS,h1-VAS,h2-VAS,h3-VAS,h4-VAS,h5-VAS,h6-VAS,h7-VAS,h8-VAS
h9-VAS,g10-VAS,h1-VAS,h2-VAS,h3-VAS,h4-VAS,h5-VAS,h6-VAS,h7-VAS,h8-VAS,f501,h2,h3,h4,h5,h6,h8,h9,g10
h1,h2,h3,h5,h6,g20,h1,h3,h4,h5,h6,h7,h8,h9,g30,h1,h2,h4,h5,h6,h7,h8,h9,g40,h1,h2,h5,h7,h8,h9,g50,h1
h2,h3,h4,h5,h6,h7,h9,g63,h4,h5,h6,h8,h9,g70,h1,h2,h3,h4,h5,h6,h7,h8,h9,g80,h1,h2,h3,h4,h5,h6,h7,h8
h9,g91,h2,h4,h5,h6,h8,f600,h1,h2,h3,h4,h6,h8,h9,g10,h1,h2,h3,h4,h5,h6,h7,h8,h9,g20,h1,h2,h3,h4,h6,h7
h8,h9,g34,h7,h8,g40,h2,h3,h4,h5,h6,h8,h9,g51,h2,h3,h4,h5,h6,h7,h8,h9,g60,h1,h2,h3,h4,f701 A,h2 B
h3 D,h4 E,h5 F,h6 H,h7 J,h8 K,h9 L,i-2 L2,j3 L3,j4 L4,j6 L6,g10 W,h1 X,h2 Y,h3 OMEGA,h4 ABB,h5 BB
h7 DD,g26 EYYY,g32 JE,f800,h1,h2,h3,h4,h5,h6,h7,fB001,i2,i3,i4,i5,i6,i7,i8,i9,h10,i1,i3,i6,i7,h20,i1
jF,jM,i2,jF,jM,i3,jM,i4,i6,i7,i8,i9,h30,i1,i4,i7,i8,i9,h40,i1,i4,i5,i6,i7,i8,i9,h50,i1,i3,i4,i5,i6
i7,i8,i9,h60,i1,i5,i6,i7,i9,h70,i3,i4,i6,i7,i8,i9,h80,i1,i2,i5,i6,i7,g118,h20,i2,i3,h31A,jB,h64,h71
h80,i8,h91,7B IDEOGRAM B100 MAN,l2 WOMAN,l4 DEER,l5 EQUID,mF MARE,mM STALLION,l6F EWE,mM RAM
l7F SHE-GOAT,mM HE-GOAT,l8F SOW,mM BOAR,l9F COW,mM BULL,k20 WHEAT,l1 BARLEY,l2 OLIVE,l3 SPICE
l5 CYPERUS,k30 OIL,l1 WINE,l2,k40 BRONZE,l1 GOLD,l2,l5 WOOL,l6,k50,l1 HORN,l2,l3,l4,l7,l8,l9 CLOTH
k60,l1,l2 GARMENT,l3 ARMOUR,l4,l5,l6,l7,l8,l9,k70,l1,l2,l3 MONTH,l4,l6 TREE,l7,l8,l9,k80,l1,l2,l3,l4
l5,l9,k90,l1 HELMET,j220 FOOTSTOOL,l5 BATHTUB,k30 SPEAR,l1 ARROW,l2,l3 SWORD,l4,l6
k40 WHEELED CHARIOT,l1 CHARIOT,l2 CHARIOT FRAME,l3 WHEEL,l5,l6,l8,l9,k51,l2,l3,l4 DART,l5,l6,l7,l8
l9,iVESSEL B155,q200,s1,s2,s3,s4,s5,s6,s7,s8,s9,r10,s1,s2,s3,s4,s5,s6,s7,s8,s9,r21,s2,s6,s7,s8,s9
r50,q305,9MONOGRAM B127 KAPO,l8 KANAKO,k33 AREPA,l5 MERI,k56 TURO2,j247 DIPTE,9SYLLABLE B001 DA
l2 RO,l3 PA,l4 TE,l5 TO,l6 NA,l7 DI,l8 A,l9 SE,k10 U,l1 PO,l2 SO,l3 ME,l4 DO,l5 MO,l6 QA,l7 ZA
k20 ZO,l1 QI,l3 MU,l4 NE,l5 A2,l6 RU,l7 RE,l8 I,l9 PU2,k30 NI,l1 SA,l2 QO,l3 RA3,l6 JO,l7 TI,l8 E
l9 PI,k40 WI,l1 SI,l2 WO,l3 A3,l4 KE,l5 DE,l6 JE,l8 NWA,k50 PU,l1 DU,l2 NO,l3 RI,l4 WA,l5 NU,l7 JA
l8 SU,l9 TA,k60 RA,l1 O,l2 PTE,l5 JU,l6 TA2,l7 KI,l8 RO2,l9 TU,k70 KO,l1 DWE,l2 PE,l3 MI,l4 ZE,l5 WE
l6 RA2,l7 KA,l8 QE,k80 MA,l1 KU,l5 AU,l7 TWE,k90 DWO,l1 TWO,bMBOL B018,j9,i22,i34,i47,j9,i56,i63,j4
i79,i82,j3,j6,j9,3K SYMBOL,4ED PAPERCLIPS,2ON FACE,2PS,4TICK,2RA SIGN,2SU LETTER A,dE,cBA,cCA,dHA
cDA,dZA,cE,dU,cFA,cGA,dHA,cHA,dHA,cI,cJA,cKA,dHA,cLA,cMA,cNA,dGA,cO,dE,cPA,dHA,cSA,dHA,cTA,dHA
dONE MYA BO,lCYA,lJEU,lNA,lTI,hNA PO,dSA,eHA,cU,dE,dH,cWA,cXA,cYA,dHA,cZA,dHA,5PUNCTUATION COMMA
hFULL STOP,2VRE TOURNOIS SIGN,2ZARD,1LAMA,1OBSTER,2CK,4 WITH INK PEN,4ING-SHIFT ONE,eZERO,2GICAL AND
b WITH DOT ABOVE,jUBLE OVERBAR,oUNDERBAR,hHORIZONTAL DASH,hMIDDLE STEM,hUNDERBAR,8OR
a OVERLAPPING LOGICAL AND,bWITH DOT ABOVE,iUBLE OVERBAR,nUNDERBAR,gHORIZONTAL DASH,gMIDDLE STEM
2LLIPOP,2NG DASH FROM LEFT MEMBER OF DOUBLE VERTICAL,6IVISION,6RUM,5LEFT RIGHT ARROW,gDOUBLE ARROW
aTACK,9WARDS ARROW,k FROM BAR,fDOUBLE ARROW,r FROM BAR,fSQUIGGLE ARROW,5RIGHT TACK,aWARDS ARROW
l FROM BAR,gDOUBLE ARROW,s FROM BAR,gSQUIGGLE ARROW,2TION BOTTLE,3US,2UDLY CRYING FACE,2VE HOTEL
5LETTER,2W ASTERISK,4BATTERY,5RIGHTNESS SYMBOL,4DOUBLE PRIME QUOTATION MARK,4KAVYKA,a WITH DOT,4LINE
3ER BLADE SCISSORS,6FIVE EIGHTHS BLOCK,6HALF BLOCK,bCIRCLE,bINVERSE WHITE CIRCLE,bMEDIUM SHADE
6LEFT BALLPOINT PEN,cLOCK DIAGONAL LOWER MIDDLE LEFT TO LOWER CENTRE,zDLE LEFT TO LOWER RIGHT
qUPPER CENTRE TO LOWER MIDDLE RIGHT,zTRE TO LOWER RIGHT,zTRE TO UPPER MIDDLE RIGHT
wLEFT TO LOWER CENTRE,zT TO LOWER MIDDLE RIGHT,zT TO UPPER MIDDLE RIGHT,wMIDDLE LEFT TO LOWER CENTRE
zDLE LEFT TO LOWER MIDDLE RIGHT,zDLE LEFT TO LOWER RIGHT,bCRAYON,bFOUNTAIN PEN,bPAINTBRUSH,cENCIL
bQUADRANT CIRCULAR ARC,bSEMICIRCULAR ANTICLOCKWISE ARROW,bTRIANGLE,hULAR MEDIUM SHADE
6ONE EIGHTH BLOCK,aQUARTER BLOCK,6RIGHT BLOCK DIAGONAL LOWER CENTRE TO LOWER MIDDLE RIGHT
zNTRE TO UPPER MIDDLE RIGHT,zNTRE TO UPPER RIGHT,xLEFT TO LOWER MIDDLE RIGHT,zFT TO UPPER CENTRE
zFT TO UPPER MIDDLE RIGHT,xMIDDLE LEFT TO UPPER CENTRE,zDDLE LEFT TO UPPER MIDDLE RIGHT
zDDLE LEFT TO UPPER RIGHT,rUPPER MIDDLE LEFT TO UPPER CENTRE,zDDLE LEFT TO UPPER RIGHT
cCORNER WITH DOT,cDROP-SHADOWED WHITE SQUARE,cPENCIL,cQUADRANT CIRCULAR ARC
cSEMICIRCULAR CLOCKWISE ARROW,dHADOWED WHITE CIRCLE,rSQUARE,cTRIANGLE,iULAR MEDIUM SHADE
6SEVEN EIGHTHS BLOCK,6THREE EIGHTHS BLOCK,cQUARTERS BLOCK,7RIANGULAR ONE QUARTER BLOCK,2ZENGE
7 DIVIDED BY HORIZONTAL RULE,1RE,2I,2M,2O,1UGGAGE,2NGS,1YCIAN LETTER A,fN,eB,fH,eD,eE,fN,eG,eH,eI,eJ
eK,fK,eL,eM,fM,eN,fN,eP,eQ,eR,eS,eT,fH,fT,eU,eW,eX,eZ,2DIAN LETTER A,fN,eB,eC,eD,eE,fN,eF,eG,eI,eK
eL,fY,eM,eN,fN,eO,eQ,eR,eS,fS,eT,fT,eU,eV,eY,7TRIANGULAR MARK,2ING FACE,0MACRON,2GE,3IC WAND,3NET
2HAJANI ABBREVIATION SIGN,9LETTER A,gBA,hHA,gCA,hHA,gDA,hDA,iHA,hHA,gE,gGA,hHA,gHA,gI,gJA,hHA,gKA
hHA,gLA,gMA,gNA,hNA,hYA,gO,gPA,hHA,gRA,hRA,gSA,gTA,hHA,hTA,iHA,gU,gVA,aIGATURE SHRI,9SECTION MARK
aIGN NUKTA,3JONG TILE AUTUMN,dBACK,fMBOO,dCHRYSANTHEMUM,dEAST WIND,eIGHT OF BAMBOOS,mCHARACTERS
nIRCLES,dFIVE OF BAMBOOS,lCHARACTERS,mIRCLES,eOUR OF BAMBOOS,lCHARACTERS,mIRCLES,dGREEN DRAGON
dJOKER,dNINE OF BAMBOOS,lCHARACTERS,mIRCLES,eORTH WIND,dONE OF BAMBOOS,kCHARACTERS,lIRCLES,eRCHID
dPLUM,dRED DRAGON,dSEVEN OF BAMBOOS,mCHARACTERS,nIRCLES,eIX OF BAMBOOS,kCHARACTERS,lIRCLES
eOUTH WIND,ePRING,eUMMER,dTHREE OF BAMBOOS,mCHARACTERS,nIRCLES,eWO OF BAMBOOS,kCHARACTERS,lIRCLES
dWEST WIND,eHITE DRAGON,eINTER,2KASAR ANGKA,8END OF SECTION,8LETTER A,fBA,fCA,fDA,fGA,fJA,fKA,fLA
fMA,fNA,gGA,gYA,fPA,fRA,fSA,fTA,fVA,fYA,8PASSIMBANG,8VOWEL SIGN E,jI,jO,jU,2LAYALAM AU LENGTH MARK
aDATE MARK,bIGIT EIGHT,gFIVE,hOUR,gNINE,gONE,gSEVEN,hIX,gTHREE,hWO,gZERO,aFRACTION ONE EIGHTH,nFIFTH
oORTIETH,nHALF,nONE-HUNDRED-AND-SIXTIETH,nQUARTER,nSIXTEENTH,nTENTH,oWENTIETH,jTHREE EIGHTIETHS
pQUARTERS,pSIXTEENTHS,pTWENTIETHS,aLETTER A,iA,iI,iRCHAIC II,iU,hBA,iHA,hCA,iHA,jILLU K,oL,pL,qL,oM
oN,pN,oRR,oY,hDA,iDA,jHA,iHA,iOT REPH,hE,iE,hGA,iHA,hHA,hI,iI,hJA,iHA,hKA,iHA,hLA,iLA,jLA,hMA,hNA
iGA,iNA,jNA,iYA,hO,iO,hPA,iHA,hRA,iRA,hSA,iHA,iSA,hTA,iHA,iTA,jHA,jTA,hU,iU,hVA,iEDIC ANUSVARA
iOCALIC L,qL,pR,qR,hYA,aNUMBER ONE HUNDRED,lTHOUSAND,hTEN,aSIGN ANUSVARA,gVAGRAHA,fCANDRABINDU
gIRCULAR VIRAMA,gOMBINING ANUSVARA ABOVE,fPARA,fVERTICAL BAR VIRAMA,gIRAMA,hSARGA,aVOWEL SIGN AA,mI
mU,lE,mE,lI,mI,lO,mO,lU,mU,lVOCALIC L,uL,tR,uR,3E AND FEMALE SIGN,5SIGN
5WITH STROKE AND MALE AND FEMALE SIGN,hSIGN,3TESE CROSS,2MMOTH,2N,3 AND WOMAN HOLDING HANDS,4DANCING
4IN BUSINESS SUIT LEVITATING,7TUXEDO,4WITH GUA PI MAO,9TURBAN,3AT SIGN,3DAIC AFFRICATION MARK
8GEMINATION MARK,8LETTER AB,gD,gG,gH,gIN,gK,hSA,gL,gM,gN,gP,gQ,gR,gS,hH,hZ,gT,hT,gZ,fDUSHENNA,fHALQA
fIN,gT,fKAD,fUSHENNA,8PUNCTUATION,8VOCALIZATION MARK,3GO,3ICHAEAN ABBREVIATION MARK ABOVE,tBELOW
bLETTER AAYIN,jLEPH,jYIN,iBETH,jHETH,iDALETH,jHAMEDH,iFE,iGHIMEL,jIMEL,iHE,kTH,iJAYIN,jHAYIN,iKAPH
jHAPH,iLAMEDH,iMEM,iNUN,iPE,iQHOPH,jOPH,iRESH,iSADHE,kMEKH,jHIN,jSHIN,iTAW,jETH,jHAMEDH,iWAW,iXAPH
jOPH,iYODH,iZAYIN,jHAYIN,bNUMBER FIVE,iONE,l HUNDRED,iTEN,jWENTY,bPUNCTUATION DOT,q WITHIN DOT
pUBLE DOT WITHIN DOT,nFLEURON,nLINE FILLER,nSTAR,nTWO DOTS,bSIGN UD,3S SHOE,3TELPIECE CLOCK
3UAL WHEELCHAIR,2P SYMBOL FOR LIGHTHOUSE,3LE LEAF,2RCHEN HEAD MARK,8LETTER -A,fA,fBA,fCA,gHA,fDA,gZA
fGA,fHA,fJA,fKA,gHA,fLA,fMA,fNA,gGA,gYA,fPA,gHA,fRA,fSA,gHA,fTA,gHA,gSA,hHA,fWA,fYA,fZA,gHA
8MARK SHAD,8SIGN ANUSVARA,dCANDRABINDU,9UBJOINED LETTER A,pBA,pCA,qHA,pDA,qZA,pGA,pHA,pJA,pKA,qHA
pLA,pMA,pNA,qGA,qYA,pPA,qHA,pRA,pSA,qHA,pTA,qHA,qSA,rHA,pWA,pYA,pZA,qHA,8VOWEL SIGN AA,jE,jI,jO,jU
3RIAGE SYMBOL,3TIAL ARTS UNIFORM,2SARAM GONDI DIGIT EIGHT,kFIVE,lOUR,kNINE,kONE,kSEVEN,lIX,kTHREE
lWO,kZERO,eLETTER A,mA,mI,mU,lBA,mHA,lCA,mHA,lDA,mDA,nHA,mHA,lE,lGA,mHA,lHA,lI,mI,lJA,mHA,mNYA,lKA
mHA,mSSA,lLA,mLA,lMA,lNA,mGA,mNA,mYA,lO,lPA,mHA,lRA,lSA,mHA,mSA,lTA,mHA,mRA,mTA,nHA,lU,mU,lVA,lYA
eRA-KARA,fEPHA,eSIGN ANUSVARA,jCANDRA,jHALANTA,jNUKTA,jVISARGA,eVIRAMA,fOWEL SIGN AA,qI,qU,pE,pI,qI
pO,pU,qU,pVOCALIC R,3CULINE ORDINAL INDICATOR,3K WORK SYMBOL,3U MARK,2TE DRINK
3HEMATICAL BOLD CAPITAL A,rLPHA,qB,rETA,qC,rHI,qD,rELTA,rIGAMMA,qE,rPSILON,rTA,qF,qG,rAMMA,qH,qI
rOTA,qJ,qK,rAPPA,qL,rAMDA,qM,rU,qN,rU,qO,rMEGA,sICRON,qP,rHI,rI,rSI,qQ,qR,rHO,qS,rIGMA,qT,rAU,rHETA
v SYMBOL,qU,rPSILON,qV,qW,qX,rI,qY,qZ,rETA,iDIGIT EIGHT,oFIVE,pOUR,oNINE,oONE,oSEVEN,pIX,oTHREE,pWO
oZERO,iEPSILON SYMBOL,iFRAKTUR CAPITAL A,yB,yC,yD,yE,yF,yG,yH,yI,yJ,yK,yL,yM,yN,yO,yP,yQ,yR,yS,yT,yU
yV,yW,yX,yY,yZ,qSMALL A,wB,wC,wD,wE,wF,wG,wH,wI,wJ,wK,wL,wM,wN,wO,wP,wQ,wR,wS,wT,wU,wV,wW,wX,wY,wZ
iITALIC CAPITAL A,yLPHA,xB,yETA,xC,yHI,xD,yELTA,xE,yPSILON,yTA,xF,xG,yAMMA,xH,xI,yOTA,xJ,xK,yAPPA,xL
yAMDA,xM,yU,xN,yU,xO,yMEGA,zICRON,xP,yHI,yI,ySI,xQ,xR,yHO,xS,yIGMA,xT,yAU,yHETA,zETA SYMBOL,xU
yPSILON,xV,xW,xX,yI,xY,xZ,yETA,pEPSILON SYMBOL,pKAPPA SYMBOL,pNABLA,pPARTIAL DIFFERENTIAL,qHI SYMBOL
qI SYMBOL,pRHO SYMBOL,pSMALL A,wLPHA,vB,wETA,vC,wHI,vD,wELTA,vE,wPSILON,wTA,vF,wINAL SIGMA,vG,wAMMA
vH,vI,wOTA,vJ,vK,wAPPA,vL,wAMDA,vM,wU,vN,wU,vO,wMEGA,xICRON,vP,wHI,wI,wSI,vQ,vR,wHO,vS,wIGMA,vT,wAU
wHETA,vU,wPSILON,vV,vW,vX,wI,vY,vZ,wETA,pTHETA SYMBOL,iKAPPA SYMBOL,iNABLA,iPARTIAL DIFFERENTIAL
jHI SYMBOL,jI SYMBOL,iRHO SYMBOL,iSCRIPT CAPITAL A,xB,xC,xD,xE,xF,xG,xH,xI,xJ,xK,xL,xM,xN,xO,xP,xQ
xR,xS,xT,xU,xV,xW,xX,xY,xZ,pSMALL A,vB,vC,vD,vE,vF,vG,vH,vI,vJ,vK,vL,vM,vN,vO,vP,vQ,vR,vS,vT,vU,vV
vW,vX,vY,vZ,jMALL A,pLPHA,oB,pETA,oC,pHI,oD,pELTA,pIGAMMA,oE,pPSILON,pTA,oF,pINAL SIGMA,oG,pAMMA,oH
oI,pOTA,oJ,oK,pAPPA,oL,pAMDA,oM,pU,oN,pU,oO,pMEGA,qICRON,oP,pHI,pI,pSI,oQ,oR,pHO,oS,pIGMA,oT,pAU
pHETA,oU,pPSILON,oV,oW,oX,pI,oY,oZ,pETA,iTHETA SYMBOL,dDOUBLE-STRUCK CAPITAL A,zB,zD,zE,zF,zG,zI,zJ
zK,zL,zM,zO,zS,zT,zU,zV,zW,zX,zY,rDIGIT EIGHT,xFIVE,yOUR,xNINE,xONE,xSEVEN,yIX,xTHREE,yWO,xZERO
rSMALL A,xB,xC,xD,xE,xF,xG,xH,xI,xJ,xK,xL,xM,xN,xO,xP,xQ,xR,xS,xT,xU,xV,xW,xX,xY,xZ
dFALLING DIAGONAL,eRAKTUR CAPITAL A,tB,tD,tE,tF,tG,tJ,tK,tL,tM,tN,tO,tP,tQ,tS,tT,tU,tV,tW,tX,tY
lSMALL A,rB,rC,rD,rE,rF,rG,rH,rI,rJ,rK,rL,rM,rN,rO,rP,rQ,rR,rS,rT,rU,rV,rW,rX,rY,rZ
dITALIC CAPITAL A,tLPHA,sB,tETA,sC,tHI,sD,tELTA,sE,tPSILON,tTA,sF,sG,tAMMA,sH,sI,tOTA,sJ,sK,tAPPA,sL
tAMDA,sM,tU,sN,tU,sO,tMEGA,uICRON,sP,tHI,tI,tSI,sQ,sR,tHO,sS,tIGMA,sT,tAU,tHETA,x SYMBOL,sU,tPSILON
sV,sW,sX,tI,sY,sZ,tETA,kEPSILON SYMBOL,kKAPPA SYMBOL,kNABLA,kPARTIAL DIFFERENTIAL,lHI SYMBOL
lI SYMBOL,kRHO SYMBOL,kSMALL A,rLPHA,qB,rETA,qC,rHI,qD,rELTA,rOTLESS I,yJ,qE,rPSILON,rTA,qF
rINAL SIGMA,qG,rAMMA,qI,rOTA,qJ,qK,rAPPA,qL,rAMDA,qM,rU,qN,rU,qO,rMEGA,sICRON,qP,rHI,rI,rSI,qQ,qR
rHO,qS,rIGMA,qT,rAU,rHETA,qU,rPSILON,qV,qW,qX,rI,qY,qZ,rETA,kTHETA SYMBOL,dLEFT ANGLE BRACKET
iDOUBLE ANGLE BRACKET,iFLATTENED PARENTHESIS,iWHITE SQUARE BRACKET,oTORTOISE SHELL BRACKET
dMONOSPACE CAPITAL A,vB,vC,vD,vE,vF,vG,vH,vI,vJ,vK,vL,vM,vN,vO,vP,vQ,vR,vS,vT,vU,vV,vW,vX,vY,vZ
nDIGIT EIGHT,tFIVE,uOUR,tNINE,tONE,tSEVEN,uIX,tTHREE,uWO,tZERO,nSMALL A,tB,tC,tD,tE,tF,tG,tH,tI,tJ
tK,tL,tM,tN,tO,tP,tQ,tR,tS,tT,tU,tV,tW,tX,tY,tZ,dRIGHT ANGLE BRACKET,jDOUBLE ANGLE BRACKET
jFLATTENED PARENTHESIS,jWHITE SQUARE BRACKET,pTORTOISE SHELL BRACKET,fSING DIAGONAL
dSANS-SERIF BOLD CAPITAL A,zL ALPHA,zL B,zL BETA,zL C,zL CHI,zL D,zL DELTA,zL E,zL EPSILON,zL ETA
zL F,zL G,zL GAMMA,zL H,zL I,zL IOTA,zL J,zL K,zL KAPPA,zL L,zL LAMDA,zL M,zL MU,zL N,zL NU,zL O
zL OMEGA,zL OMICRON,zL P,zL PHI,zL PI,zL PSI,zL Q,zL R,zL RHO,zL S,zL SIGMA,zL T,zL TAU,zL THETA
zL THETA SYMBOL,zL U,zL UPSILON,zL V,zL W,zL X,zL XI,zL Y,zL Z,zL ZETA,tDIGIT EIGHT,zFIVE,zFOUR
zNINE,zONE,zSEVEN,zSIX,zTHREE,zTWO,zZERO,tEPSILON SYMBOL,tITALIC CAPITAL A,z CAPITAL ALPHA
z CAPITAL B,z CAPITAL BETA,z CAPITAL C,z CAPITAL CHI,z CAPITAL D,z CAPITAL DELTA,z CAPITAL E
z CAPITAL EPSILON,z CAPITAL ETA,z CAPITAL F,z CAPITAL G,z CAPITAL GAMMA,z CAPITAL H,z CAPITAL I
z CAPITAL IOTA,z CAPITAL J,z CAPITAL K,z CAPITAL KAPPA,z CAPITAL L,z CAPITAL LAMDA,z CAPITAL M
z CAPITAL MU,z CAPITAL N,z CAPITAL NU,z CAPITAL O,z CAPITAL OMEGA,z CAPITAL OMICRON,z CAPITAL P
z CAPITAL PHI,z CAPITAL PI,z CAPITAL PSI,z CAPITAL Q,z CAPITAL R,z CAPITAL RHO,z CAPITAL S
z CAPITAL SIGMA,z CAPITAL T,z CAPITAL TAU,z CAPITAL THETA,z CAPITAL THETA SYMBOL,z CAPITAL U
z CAPITAL UPSILON,z CAPITAL V,z CAPITAL W,z CAPITAL X,z CAPITAL XI,z CAPITAL Y,z CAPITAL Z
z CAPITAL ZETA,z EPSILON SYMBOL,z KAPPA SYMBOL,z NABLA,z PARTIAL DIFFERENTIAL,z PHI SYMBOL
z PI SYMBOL,z RHO SYMBOL,z SMALL A,z SMALL ALPHA,z SMALL B,z SMALL BETA,z SMALL C,z SMALL CHI
z SMALL D,z SMALL DELTA,z SMALL E,z SMALL EPSILON,z SMALL ETA,z SMALL F,z SMALL FINAL SIGMA
z SMALL G,z SMALL GAMMA,z SMALL H,z SMALL I,z SMALL IOTA,z SMALL J,z SMALL K,z SMALL KAPPA,z SMALL L
z SMALL LAMDA,z SMALL M,z SMALL MU,z SMALL N,z SMALL NU,z SMALL O,z SMALL OMEGA,z SMALL OMICRON
z SMALL P,z SMALL PHI,z SMALL PI,z SMALL PSI,z SMALL Q,z SMALL R,z SMALL RHO,z SMALL S,z SMALL SIGMA
z SMALL T,z SMALL TAU,z SMALL THETA,z SMALL U,z SMALL UPSILON,z SMALL V,z SMALL W,z SMALL X
z SMALL XI,z SMALL Y,z SMALL Z,z SMALL ZETA,z THETA SYMBOL,tKAPPA SYMBOL,tNABLA
tPARTIAL DIFFERENTIAL,uHI SYMBOL,uI SYMBOL,tRHO SYMBOL,tSMALL A,zALPHA,zB,zBETA,zC,zCHI,zD,zDELTA,zE
zEPSILON,zETA,zF,zFINAL SIGMA,zG,zGAMMA,zH,zI,zIOTA,zJ,zK,zKAPPA,zL,zLAMDA,zM,zMU,zN,zNU,zO,zOMEGA
zOMICRON,zP,zPHI,zPI,zPSI,zQ,zR,zRHO,zS,zSIGMA,zT,zTAU,zTHETA,zU,zUPSILON,zV,zW,zX,zXI,zY,zZ,zZETA
tTHETA SYMBOL,oCAPITAL A,wB,wC,wD,wE,wF,wG,wH,wI,wJ,wK,wL,wM,wN,wO,wP,wQ,wR,wS,wT,wU,wV,wW,wX,wY,wZ
oDIGIT EIGHT,uFIVE,vOUR,uNINE,uONE,uSEVEN,vIX,uTHREE,vWO,uZERO,oITALIC CAPITAL A,zTAL B,zTAL C
zTAL D,zTAL E,zTAL F,zTAL G,zTAL H,zTAL I,zTAL J,zTAL K,zTAL L,zTAL M,zTAL N,zTAL O,zTAL P,zTAL Q
zTAL R,zTAL S,zTAL T,zTAL U,zTAL V,zTAL W,zTAL X,zTAL Y,zTAL Z,vSMALL A,zL B,zL C,zL D,zL E,zL F
zL G,zL H,zL I,zL J,zL K,zL L,zL M,zL N,zL O,zL P,zL Q,zL R,zL S,zL T,zL U,zL V,zL W,zL X,zL Y,zL Z
oSMALL A,uB,uC,uD,uE,uF,uG,uH,uI,uJ,uK,uL,uM,uN,uO,uP,uQ,uR,uS,uT,uU,uV,uW,uX,uY,uZ,eCRIPT CAPITAL A
sC,sD,sG,sJ,sK,sN,sO,sP,sQ,sS,sT,sU,sV,sW,sX,sY,sZ,kSMALL A,qB,qC,qD,qF,qH,qI,qJ,qK,qL,qM,qN,qP,qQ
qR,qS,qT,qU,qV,qW,qX,qY,qZ,2XIMIZE,2YAN NUMERAL EIGHT,jEEN,fLEVEN,eFIFTEEN,gVE,fOUR,iTEEN,eNINE
iTEEN,eONE,eSEVEN,jTEEN,fIX,hTEEN,eTEN,fHIRTEEN,gREE,fWELVE,gO,eZERO,1EASURED ANGLE,e OPENING LEFT
fWITH OPEN ARM ENDING IN ARROW POINTING DOWN AND LEFT,z IN ARROW POINTING DOWN AND RIGHT
z IN ARROW POINTING LEFT AND DOWN,z IN ARROW POINTING LEFT AND UP,z IN ARROW POINTING RIGHT AND DOWN
z IN ARROW POINTING RIGHT AND UP,z IN ARROW POINTING UP AND LEFT,z IN ARROW POINTING UP AND RIGHT
9BY,9RIGHT ANGLE WITH DOT,3T ON BONE,2CHANICAL ARM,bLEG,2DEFAIDRIN CAPITAL LETTER A,sI,sTIU,rB,rC,rD
rE,rF,rG,rH,sP,rI,rJ,rK,sP,rL,rM,rN,sG,sY,rO,sE,rP,rQ,rR,rS,rT,rU,rV,rW,rX,rY,sU,rZ,dOMMA
cDIGIT EIGHT,iFIVE,jOUR,iNINE,iONE,l ALTERNATE FORM,iSEVEN,jIX,iTHREE,n ALTERNATE FORM,jWO
l ALTERNATE FORM,iZERO,cEXCLAMATION OH,cFULL STOP,cNUMBER EIGHTEEN,kLEVEN,jFIFTEEN,kOURTEEN
jNINETEEN,jSEVENTEEN,kIXTEEN,jTEN,kHIRTEEN,kWELVE,cSMALL LETTER A,qI,qTIU,pB,pC,pD,pE,pF,pG,pH,qP,pI
pJ,pK,qP,pL,pM,pN,qG,qY,pO,qE,pP,pQ,pR,pS,pT,pU,pV,pW,pX,pY,qU,pZ,dYMBOL AIVA,3IEVAL COMMA
9EXCLAMATION MARK,9QUESTION MARK,4UM BLACK CIRCLE,8OLD WHITE CIRCLE,7EIGHT POINTED BLACK STAR
dSPOKED ASTERISK,7FIVE SPOKED ASTERISK,8LATTENED LEFT PARENTHESIS ORNAMENT
hRIGHT PARENTHESIS ORNAMENT,8OUR POINTED BLACK STAR,kPINWHEEL STAR,7GREEK CROSS
7LEFT CURLY BRACKET ORNAMENT,cPARENTHESIS ORNAMENT,b-POINTING ANGLE BRACKET ORNAMENT
7MATHEMATICAL SPACE,7RIGHT CURLY BRACKET ORNAMENT,dPARENTHESIS ORNAMENT
c-POINTING ANGLE BRACKET ORNAMENT,7SALTIRE,8HADE,8IX POINTED BLACK STAR,bSPOKED ASTERISK
8MALL WHITE CIRCLE,7THREE POINTED BLACK STAR,lPINWHEEL STAR,7VERTICAL BAR,7WHITE CIRCLE,dSQUARE
2ETEI MAYEK AHANG KHUDAM,eNJI,ePUN IYEK,dCHEIKHAN,jEI,dDIGIT EIGHT,jFIVE,kOUR,jNINE,jONE,jSEVEN,kIX
jTHREE,kWO,jZERO,dLETTER ATIYA,kBA,lHAM,kCHA,mIL,kDDA,mHA,lHOU,lIL,kE,kGHOU,lOK,kHUK,kI,l LONSUM
kJHAM,lIL,kKHOU,lOK,n LONSUM,kLAI,n LONSUM,kMIT,n LONSUM,kNA,m LONSUM,lGOU,o LONSUM,lNA,lYA,kO,kPA
m LONSUM,lHAM,kRAI,kSAM,lHA,lSA,kTHOU,lIL,n LONSUM,lTA,mHA,kUN,kWAI,kYANG,eUM IYEK
dSYLLABLE REPETITION MARK,dVIRAMA,eOWEL SIGN AAI,qU,pNAP,pU,oCHEINAP,oII,pNAP,oNUNG,oONAP,oSOUNAP
oUNAP,pU,oVISARGA,oYENAP,dWORD REPETITION MARK,2LON,3TING FACE,2MO
2NDE KIKAKUI COMBINING NUMBER HUNDRED THOUSANDS,zREDS,vMILLIONS,vTEENS,xN THOUSANDS,yS,wHOUSANDS
eDIGIT EIGHT,kFIVE,lOUR,kNINE,kONE,kSEVEN,lIX,kTHREE,lWO,eSYLLABLE M001 KI,q2 KA,q3 KU,q4 WI,q5 WA
q6 WU,q7 MIN,q8 MAN,q9 MUN,p10 BI,q1 BA,q2 BU,q3 I,q4 A,q5 U,q6 DI,q7 DA,q8 DU,q9 SI,p20 SA,q1 SU
q2 TI,q3 TA,q4 TU,q5 LI,q6 LA,q7 LU,q8 JI,q9 JA,p30 JU,q1 YI,q2 YA,q3 YU,q4 FI,q5 FA,q6 FU,q7 NIN
q8 NAN,q9 NUN,p40 HEE,q1 HA,q2 HOO,q3 NGGA,q4 KPEE,q5 WO,q6 HUAN,q7 MBEE,q8 KO,q9 WVA,p50 PU,q1 PE
q2 HEN,q3 HIN,q4 LOO,q5 TE,q6 GBA,q7 NGON,q8 NYAN,q9 MEN,p60 NYON,q1 WVI,q2 MBA,q3 JO,q4 NDO,q5 KEE
q6 PO,q7 NDOO,q8 PI,q9 TO,p70 GBO,q1 GBOO,q2 MBE,q3 LE,q4 KPU,q5 FE,q6 KOO,q7 VO,q8 FEE,q9 SO,p80 YE
q1 PEE,q2 NGGU,q3 HEEI,q4 LEE,q5 VE,q6 LONG NGGE,q7 HUN,q8 FO,q9 DEE,p90 NGGI,q1 TEE,q2 KPA,q3 GBEE
q4 MON,q5 KE,q6 HE,q7 BE,q8 NYEN,q9 PA,o100 E,q1 FAN,q2 POO,q3 BOO,q4 TOO,q5 LONG MBOO,q6 LONG NGGOO
q7 GBE,q8 KPE,q9 YEE,p10 LONG LE,q1 GA,q2 KPOO,q3 JE,q4 WOO,q5 NGGEE,q6 SE,q7 NEN,q8 WE,q9 NDE
p20 NGGO,q1 YO,q2 MBU,q3 NDI,q4 GBI,q5 NDU,q6 WEE,q7 NGGUA,q8 HOOU,q9 NDA,p30 HAN,q1 IN,q2 KPI
q3 FOO,q4 NJOO,q5 IN,q6 SOO,q7 EI,q8 BO,q9 WVE,p40 HO,q1 YOO,q2 LONG MBO,q3 WEI,q4 VOO,q5 MBI
q6 NGGE,q7 O,q8 GBU,q9 NJEE,p50 BEE,q1 VU,q2 NJA,q3 LO,q4 MUAN,q5 GI,q6 NGGOO,q7 JEE,q8 KPO,q9 NGGAA
p60 JOO,q1 LONG MBE,q2 SEE,q3 EE,q4 NYIN,q5 OO,q6 GUEI,q7 GUAN,q8 GU,q9 NON,p70 NYUN,q1 RA,q2 MBOO
q3 VEE,q4 MBO,q5 LONG JO,q6 HI,q7 NGUAN,q8 EN,q9 KUA,p80 DOO,q1 DO,q2 VI,q3 LONG NGGO,q4 NGEN,q5 VA
q6 HU,q7 MBUU,q8 MBEE,q9 MUEN,p90 GEE,q1 NDEE,q2 NJU,q3 HON,q4 WUI,q5 AN,q6 SIA,q7 FUA
3ORAH WITH NINE BRANCHES,3S SYMBOL,2RCURY,3OITIC CURSIVE FRACTION EIGHT TWELFTHS,rLEVEN TWELFTHS
qFIVE TWELFTHS,rOUR TWELFTHS,qNINE TWELFTHS,qONE HALF,uTWELFTH,qSEVEN TWELFTHS,rIX TWELFTHS
qTEN TWELFTHS,rHREE TWELFTHS,rWO TWELFTHS,hLETTER A,pRCHAIC SA,oBA,oDA,oE,oHHA,oI,oKA,pHA,oLA,oMA
oNA,pE,oO,oPA,oQA,oRA,oSA,pE,oTA,pE,pO,oWA,oYA,iOGOGRAM IMN,qRMT,hNUMBER EIGHT,t HUNDRED
zED THOUSAND,uTHOUSAND,tY THOUSAND,oFIFTY,t THOUSAND,qVE,s HUNDRED,zD THOUSAND,tTHOUSAND,pORTY
t THOUSAND,qUR,s HUNDRED,zD THOUSAND,tTHOUSAND,oNINE,s HUNDRED,zD THOUSAND,tTHOUSAND,sTY THOUSAND
oONE,r HUNDRED,z THOUSAND,sTHOUSAND,oSEVEN,t HUNDRED,zED THOUSAND,uTHOUSAND,tTY,v THOUSAND,pIX
r HUNDRED,z THOUSAND,sTHOUSAND,rTY,t THOUSAND,oTEN,r THOUSAND,pHIRTY,u THOUSAND,qREE,t HUNDRED
zED THOUSAND,uTHOUSAND,pWENTY,u THOUSAND,qO,r HUNDRED,z THOUSAND,sTHOUSAND,9HIEROGLYPHIC LETTER A
tBA,v-2,tDA,tE,tHHA,tI,tKA,uHA,tLA,tMA,tNA,v-2,uE,v-2,tO,tPA,tQA,tRA,v-2,tSA,v-2,uE,tTA,v-2,uE,v-2
uO,tWA,tYA,mSYMBOL VIDJ,x-2,3PERSON,2SSAGE WAITING,2TRICAL BREVE,9LONG OVER SHORT,jTWO SHORTS
9PENTASEME,9SHORT OVER LONG,9TETRASEME,aRISEME,aWO SHORTS JOINED,kOVER LONG,4O,1IAO LETTER AH
dRCHAIC MA,kNA,lGA,kZZA,cBA,dRI,cDA,dDA,dLHA,fYA,dZA,eHA,eYI,eZA,cFA,cGA,dHA,eHA,cHA,dHA,cKA,cLA,dHA
eYA,dYA,cMA,dHA,cNA,eSALIZATION,dGA,eHA,dHA,dNA,eHA,dYA,eHA,cPA,dLA,cQA,dGA,cREFORMED TONE-1,q2,q4
q5,q6,q8,mSHA,dTE,cSA,dHA,dSA,dYI,cTA,dE,dLHA,fYA,dONE-2,h3,h4,h5,h6,h7,h8,dSA,eE,eHA,eSA,dTA,cVA
dFA,cWA,cXA,cYI DZHA,fKA,fNNA,fPA,fTA,gSA,hHA,gTA,cZA,dHA,dSA,eHA,dZA,eSA,fYA,eYA,5SIGN ASPIRATION
aCONSONANT MODIFIER BAR,aREFORMED ASPIRATION,jVOICING,5TONE ABOVE,aBELOW,aRIGHT,aTOP RIGHT
5VOWEL SIGN A,hA,hE,iE,hHH,hI,hN,iG,hU,gE,hA,hI,hN,iG,hR,iR,gI,hA,iN,jG,hE,hG,hI,hNG,hO,iNG,hU,gN,hG
gO,hER,iY,hG,hO,hU,gROUNDED ER,qR,gU,hA,iN,jG,hEI,hI,hNG,hOG,hU,gVW,gW,hO,gY,hI,hUI,2CR DASH SYMBOL
5ON US SYMBOL,4O SIGN,5BE,5PHONE,5SCOPE,2DDLE DOT,7THIRD WHITE RIGHT POINTING INDEX
3LINE HORIZONTAL ELLIPSIS,2LITARY HELMET,9MEDAL,3KY WAY,3L SIGN,2NIBUS,4DISC,4MIZE,3US SIGN
a IN TRIANGLE,bWITH COMMA ABOVE,gDOT BELOW,gFALLING DOTS,gRISING DOTS,6TILDE,5-OR-PLUS SIGN,3Y,2RROR
6 BALL,1MSP,1OBILE PHONE,c OFF,dWITH RIGHTWARDS ARROW AT LEFT,2DELS,4RN PENTATHLON
3I ABBREVIATION SIGN,5DANDA,6IGIT EIGHT,bFIVE,cOUR,bNINE,bONE,bSEVEN,cIX,bTHREE,cWO,bZERO
6OUBLE DANDA,5LETTER A,dA,dI,dU,cBA,dHA,cCA,dHA,cDA,dDA,eHA,dHA,cE,cGA,dHA,cHA,cI,dI,cJA,dHA,cKA,dHA
cLA,dLA,cMA,cNA,dGA,dNA,dYA,cO,cPA,dHA,cRA,cSA,dHA,dSA,cTA,dHA,dTA,eHA,cU,dU,cVA,dOCALIC L,lL,kR,lR
cYA,5SIGN ANUSVARA,bRDHACANDRA,aHUVA,aVIRAMA,cSARGA,5VOWEL SIGN AA,hI,hU,gE,gI,hI,gO,gU,hU
gVOCALIC L,pL,oR,pR,4FIER BREVE WITH INVERTED BREVE,9LETTER ACUTE ACCENT,hLVEOLAR CLICK,hPOSTROPHE
gBEGIN HIGH TONE,mLOW TONE,hILABIAL CLICK,gCAPITAL A,pE,oB,pARRED B,oC,oD,oE,oF,oG,oH,p WITH STROKE
oI,oJ,oK,oL,oM,oN,oO,pU,oP,oQ,oR,pEVERSED E,xN,oT,oU,oV,oW,hENTRED LEFT HALF RING,oRIGHT HALF RING
hHINESE TONE YANG PING,yQU,yRU,ySHANG,uIN PING,xQU,xRU,xSHANG,hIRCUMFLEX ACCENT,hOLON,hROSS ACCENT
hYRILLIC EN,pHARD SIGN,pSOFT SIGN,gDENTAL CLICK,hOT HORIZONTAL BAR,kSLASH,kVERTICAL BAR
iUBLE APOSTROPHE,nPRIME,iWN ARROWHEAD,lTACK,gEND HIGH TONE,kLOW TONE
hXTRA-HIGH DOTTED LEFT-STEM TONE BAR,yTONE BAR,rLEFT-STEM TONE BAR,rTONE BAR
mLOW DOTTED LEFT-STEM TONE BAR,xTONE BAR,qLEFT-STEM TONE BAR,qTONE BAR,gGEORGIAN NAR,hLOTTAL STOP
s WITH STROKE,hRAVE ACCENT,gHALF TRIANGULAR COLON,hIGH DOTTED LEFT-STEM TONE BAR,sTONE BAR
lLEFT-STEM TONE BAR,lTONE BAR,gLATERAL CLICK,hEFT ARROWHEAD,lHALF RING,lTACK,hOW ACUTE ACCENT
kCIRCUMFLEX ACCENT,kDOTTED LEFT-STEM TONE BAR,rTONE BAR,mWN ARROWHEAD,kGRAVE ACCENT
kINVERTED EXCLAMATION MARK,kLEFT ARROW,uHEAD,o-STEM TONE BAR,kMACRON,kRIGHT ARROWHEAD,mNG,kTILDE
lONE BAR,kUP ARROWHEAD,kVERTICAL LINE,jER RIGHT CORNER ANGLE,gMACRON,hID DOTTED LEFT-STEM TONE BAR
rTONE BAR,kLEFT-STEM TONE BAR,kTONE BAR,jDLE DOUBLE ACUTE ACCENT,uGRAVE ACCENT,nGRAVE ACCENT
iNUS SIGN,gOPEN SHELF,gPLUS SIGN,hRIME,gRAISED COLON,nDOWN ARROW,nEXCLAMATION MARK
nINVERTED EXCLAMATION MARK,nUP ARROW,hETROFLEX CLICK WITH RETROFLEX HOOK,iVERSED COMMA,pGLOTTAL STOP
zOP WITH STROKE,hHOTIC HOOK,hIGHT ARROWHEAD,mHALF RING,mTACK,gSHELF,iORT EQUALS SIGN,hMALL A,nE,nIN
nLPHA,mB,n WITH HOOK,nARRED O,nETA,nOTTOM HALF O,mC,n WITH CURL,nAPITAL AA,uB,uG,v WITH HOOK,uH,uI
v WITH STROKE,vNVERTED R,uL,v WITH BELT,uN,uOE,uR,uU,uY,nHI,nLOSED OMEGA,tREVERSED OPEN E,mD
n WITH HOOK,x AND TAIL,tTAIL,nELTA,oZH DIGRAPH,nOTLESS J WITH STROKE,zH STROKE AND HOOK,nZ DIGRAPH
w WITH CURL,zTH RETROFLEX HOOK,mE,nNG,nSH,nTH,nZH,mF,nENG DIGRAPH,mG,n WITH HOOK,nAMMA,nREEK GAMMA
sPHI,mH,n WITH HOOK,tSTROKE,nENG,q WITH HOOK,mI WITH STROKE,nOTA,mJ,n WITH CROSSED-TAIL,mK,mL
n WITH BELT,tINVERTED LAZY S,tMIDDLE TILDE,tPALATAL HOOK,tRETROFLEX HOOK,zLEX HOOK AND BELT,nEZH
q WITH RETROFLEX HOOK,nIGATURE OE,nS DIGRAPH,nZ DIGRAPH,mM,n WITH HOOK,mN WITH LEFT HOOK
tRETROFLEX HOOK,mO,n WITH STROKE,nPEN E,rO,mP,nHI,mQ,mR,n WITH FISHHOOK,tTAIL,nAMS HORN,nEVERSED E
vGLOTTAL STOP,vOPEN E,mS,n WITH CURL,tHOOK,nCHWA,oRIPT G,nIDEWAYS U,mT,n WITH PALATAL HOOK
tRETROFLEX HOOK,nC DIGRAPH WITH CURL,nESH DIGRAPH,nHETA,nOP HALF O,nS DIGRAPH,w WITH RETROFLEX HOOK
nURNED A,uE,uLPHA,tH,tI,tM,u WITH LONG LEG,tOPEN E,tR,u WITH HOOK,z LONG LEG
z LONG LEG AND RETROFLEX HOOK,tV,tW,tY,u WITH BELT,mU,n BAR,oWITH LEFT HOOK,nPSILON,mV,n WITH HOOK
tRIGHT HOOK,mW,mX,mY,mZ,n WITH CURL,tRETROFLEX HOOK,hTRESS AND HIGH TONE,rLOW TONE
hUPERSCRIPT HALF TRIANGULAR COLON,sTRIANGULAR COLON,gTRIANGULAR COLON,hURNED COMMA,gUNASPIRATED
hP ARROWHEAD,jTACK,hS,gVERTICAL LINE,hOICING,gYANG DEPARTING TONE MARK,hIN DEPARTING TONE MARK
3ULO TWO SUM,2NEY BAG,6WITH WINGS,5-MOUTH FACE,3GOLIAN BIRGA,f WITH DOUBLE ORNAMENT,lORNAMENT,aCOLON
cMMA,aDIGIT EIGHT,gFIVE,hOUR,gNINE,gONE,gSEVEN,hIX,gTHREE,hWO,gZERO,bOUBLE BIRGA WITH ORNAMENT
aELLIPSIS,aFOUR DOTS,bREE VARIATION SELECTOR FOUR,yONE,yTHREE,zWO,bULL STOP,aINVERTED BIRGA
o WITH DOUBLE ORNAMENT,aLETTER A,iLI GALI A,rH,rNUSVARA ONE,qBALUDA,qCA,qDA,sGALGA,sMARU,rDA,qHALF U
vYA,qI,rNVERTED UBADAMA,qKA,qNGA,rNA,qPA,rHA,qSSA,qTA,rHREE BALUDA,rTA,sHA,qUBADAMA,qVISARGA ONE,qZA
rHA,iNG,hBA,hCHA,k WITH TWO DOTS,jI,hDA,hE,iE,hFA,hGA,hHAA,hI,hJA,hKA,iHA,hLA,iHA,hMA
jNCHU ALI GALI BHA,xCA,yYA,xDDHA,yHA,xGHA,xJHA,xLHA,xNGA,xSSA,xTA,yTA,xZA,yHA,oFA,oI,oKA,oRA,oZHA
hNA,hO,iE,hPA,hQA,hRA,hSA,iHA,iIBE ANG,mCHA,mDA,mE,mFA,mGA,oA,mHA,oA,mI,nY,mJA,mKA,mPA,mRAA,mSHA,mTA
nSA,mU,nE,mZA,nHA,hTA,iODO ALI GALI TA,vZHA,nNG,mBA,mCHA,mDA,nZA,mE,mGA,oA,mHAA,mI,mJA,nIA,mKA
mLONG VOWEL SIGN,mMA,mNIA,mO,nE,mPA,mQA,mTA,nSA,mU,nE,mWA,mYA,iSA,hU,iE,hWA,hYA,hZA,iHI,iRA
aMANCHU COMMA,hFULL STOP,aNIRUGU,aROTATED BIRGA,n WITH DOUBLE ORNAMENT,tORNAMENT
aSIBE SYLLABLE BOUNDARY MARKER,bWIRL BIRGA,l WITH DOUBLE ORNAMENT,rORNAMENT,aTODO SOFT HYPHEN
bRIPLE BIRGA WITH ORNAMENT,bURNED SWIRL BIRGA WITH DOUBLE ORNAMENT,aVOWEL SEPARATOR,3KEY,6 FACE
3OGRAM FOR EARTH,dYANG,eIN,4RAIL,4STABLE SYMBOL,2OD BUBBLE,3N CAKE,5VIEWING CEREMONY,2SQUE,5ITO
2THER CHRISTMAS,3OR BOAT,6SCOOTER,5IZED WHEELCHAIR,5WAY,2UNT FUJI,5AIN,8 BICYCLIST,9CABLEWAY
9RAILWAY,3SE,5 FACE,6TRAP,3TH,2VIE CAMERA,2YAI,1RO DANDA,5IGIT EIGHT,aFIVE,bOUR,aNINE,aONE,aSEVEN
bIX,aTHREE,bWO,aZERO,5OUBLE DANDA,4LETTER A,bBA,bCHU,bDA,dI,bE,cA,bHAI,dO,bKEAAE,cHAI,cO,bLA,dN
bMAEM,cIM,bNGI,cIN,bO,cL,cO,bPA,cHI,bRI,cO,bSHI,bTA,cEK,cHEA,bWA,bYO,1UCH GREATER-THAN,5LESS-THAN
2LTANI LETTER A,fBA,gHA,fCA,gHA,fDA,gDA,hDA,hHA,gHA,fE,fGA,gHA,fHA,fI,fJA,gJA,fKA,gHA,fLA,fMA,fNA
gNA,gYA,fPA,gHA,fRA,gHA,gRA,fSA,fTA,gHA,gTA,hHA,fU,fVA,fYA,8SECTION MARK,4IMAP,5PLE MUSICAL NOTES
7ICATION SIGN,j IN DOUBLE CIRCLE,nLEFT HALF CIRCLE,nRIGHT HALF CIRCLE,nTRIANGLE,kWITH DOT ABOVE
pUNDERBAR,fX,5SET,8 MULTIPLICATION,9UNION,2SHROOM,3IC FLAT SIGN,6NATURAL SIGN,6SHARP SIGN
5AL KEYBOARD,g WITH JACKS,8NOTE,8SCORE,9YMBOL ARPEGGIATO DOWN,qUP,fBEGIN BEAM,lPHRASE,lSLUR,lTIE
gRACE,jKET,hEATH MARK,iVE,jIS,l REST,fC CLEF,gAESURA,gIRCLE X NOTEHEAD,gLIMACUS,iVIS
hUSTER NOTEHEAD BLACK,wWHITE,gODA,hMBINING ACCENT,v-STACCATO,qUGMENTATION DOT,pBEND,pDOIT
rUBLE TONGUE,rWN BOW,pFLAG-1,u2,u3,u4,u5,rIP,pHARMONIC,pLOURE,pMARCATO,w-STACCATO,pRIP,pSMEAR
qNAP PIZZICATO,qPRECHGESANG STEM,qTACCATISSIMO,wO,rEM,pTENUTO,qREMOLO-1,x2,x3,rIPLE TONGUE,pUP BOW
iMON TIME,gRESCENDO,hOIX,gUT TIME,fDA CAPO,hL SEGNO,hMP,j ALL,hSHED BARLINE,gECRESCENDO,hGREE SLASH
gOUBLE BARLINE,mFLAT,mSHARP,gRUM CLEF-1,p2,fEIGHTH NOTE,mREST,gND BEAM,jOF STIMME,jPHRASE,jSLUR,jTIE
fF CLEF,l OTTAVA ALTA,tBASSA,gERMATA,m BELOW,gINAL BARLINE,iGERED TREMOLO-1,w2,w3,hVE-LINE STAFF
gLAT DOWN,kUP,gORTE,hUR-LINE STAFF,kSTRING FRETBOARD,gUSA BLACK,kWHITE,fG CLEF,l OTTAVA ALTA,tBASSA
gLISSANDO DOWN,pUP,gRACE NOTE NO SLASH,qSLASH,hEGORIAN C CLEF,pF CLEF,fHALF NOTE,kPEDAL MARK,kREST
hUPTSTIMME,fINVERTED TURN,fKIEVAN C CLEF,mEIGHTH NOTE STEM DOWN,zTEM UP,nND OF PIECE,mFINAL NOTE
nLAT SIGN,mHALF NOTE,mQUARTER NOTE STEM DOWN,zSTEM UP,mRECITATIVE MARK,mWHOLE NOTE,gORON
fLEFT REPEAT SIGN,gONGA,k IMPERFECTA REST,lPERFECTA REST,fMAXIMA,gEZZO,gINIMA,l BLACK,mREST
gOON NOTEHEAD BLACK,tWHITE,gULTI REST,kPLE MEASURE REST,fNATURAL DOWN,nUP,gEBENSTIMME,gOTEHEAD BLACK
gULL NOTEHEAD,fONE HUNDRED TWENTY-EIGHTH NOTE,zIGHTH REST,i-LINE STAFF,gRNAMENT STROKE-1,w0,w1,v2,v3
v4,v5,v6,v7,v8,v9,gTTAVA ALTA,mBASSA,fPARENTHESIS NOTEHEAD,gEDAL MARK,lUP MARK,hS SUBPUNCTIS,gIANO
gLUS NOTEHEAD,gODATUS,hRRECTUS,o FLEXUS,fQUARTER NOTE,nREST,nTONE FLAT,sSHARP,hINDICESIMA ALTA
sBASSA,fREPEAT DOTS,lED FIGURE-1,v2,v3,hVERSE FINAL BARLINE,gIGHT REPEAT SIGN,hNFORZANDO,fSCANDICUS
o FLEXUS,gEGNO,hMIBREVIS BLACK,qREST,qWHITE,jMINIMA BLACK,qREST,qWHITE,gHARP DOWN,lUP,hORT BARLINE
gINGLE BARLINE,hX-LINE STAFF,jSTRING FRETBOARD,iTEENTH NOTE,pREST,jY-FOURTH NOTE,sREST,gORI,gQUARE B
mNOTEHEAD BLACK,vWHITE,gUBITO,fTEMPUS IMPERFECTUM CUM PROLATIONE IMPERFECTA
zUM PROLATIONE IMPERFECTA DIMINUTION-1,zUM PROLATIONE IMPERFECTA DIMINUTION-2
zUM PROLATIONE IMPERFECTA DIMINUTION-3,zUM PROLATIONE PERFECTA,mPERFECTUM CUM PROLATIONE IMPERFECTA
z PROLATIONE PERFECTA,z PROLATIONE PERFECTA DIMINUTION-1,gHIRTY-SECOND NOTE,tREST,hREE-LINE STAFF
gORCULUS,n RESUPINUS,gR,hIANGLE NOTEHEAD DOWN BLACK,zWN WHITE,xLEFT BLACK,zFT WHITE,xRIGHT BLACK
zGHT WHITE,xUP BLACK,z RIGHT BLACK,z RIGHT WHITE,z WHITE,n-ROUND NOTEHEAD DOWN BLACK,zEAD DOWN WHITE
gURN,j SLASH,kUP,gWO-LINE STAFF,fVIRGA,gOID NOTEHEAD,fWHOLE NOTE,lREST,gITH FINGERNAILS,fX NOTEHEAD
fZ,1VS,1W,1YANMAR CONSONANT SIGN MEDIAL HA,uRA,uWA,uYA,oON MEDIAL LA,yMA,yNA,nSHAN MEDIAL WA
8DIGIT EIGHT,eFIVE,fOUR,eNINE,eONE,eSEVEN,fIX,eTHREE,fWO,eZERO,8LETTER A,gITON RA,gU,fBA,gHA,fCA,gHA
fDA,gDA,hHA,gHA,fE,gASTERN PWO KAREN GHWA,xNNA,xYWA,fGA,gHA,gREAT SA,fHA,fI,gI,fJA,gHA,fKA,gHA
iMTI CA,nHA,mDDA,oHA,nHA,mFA,mGA,mHA,nHA,mJA,nHA,mLLA,mNA,nYA,mRA,mSA,mTTA,oHA,mXA,mZA,fLA,gLA,fMA
gON BBA,lE,jE,jJHA,jNGA,fNA,gGA,gNA,hYA,gYA,fO,fPA,gHA,fRA,gUMAI PALAUNG FA,fSA,gGAW KAREN SHA,gHA
iN A,kBA,lHA,kCA,lHA,kDA,kFA,kGA,lHA,kHA,kJHA,kKA,lHA,kNA,lNA,lYA,kPHA,kTHA,kZA,hWE PALAUNG CHA,sSHA
gSA,fTA,hI LAING BA,qHA,pDA,qDA,rHA,qHA,pFA,pGA,qHA,pJA,qHA,pLLA,pNNA,qYA,gHA,gTA,hHA,fU,gU
fVOCALIC L,oL,nR,oR,fWA,gESTERN PWO KAREN PWA,xTHA,fYA,9OGOGRAM KHAMTI HM,oOAY,oQN
8MODIFIER LETTER KHAMTI REDUPLICATION,oSHAN REDUPLICATION,8SHAN DIGIT EIGHT,jFIVE,kOUR,jNINE,jONE
jSEVEN,kIX,jTHREE,kWO,jZERO,9IGN ANUSVARA,eSAT,dDOT BELOW,dKHAMTI TONE-1,p3,dLITTLE SECTION
dPAO KAREN TONE,dRUMAI PALAUNG TONE-5,dSECTION,eHAN COUNCIL EMPHATIC TONE,qTONE-2,v3,iSAW,iTONE-2,n3
n5,n6,dTAI LAING TONE-2,s5,dVIRAMA,fSARGA,dWESTERN PWO KAREN TONE-1,z-2,z-3,z-4,z-5
9YMBOL AFOREMENTIONED,gITON EXCLAMATION,lONE,lTWO,fCOMPLETED,fGENITIVE,fLOCATIVE,fSHAN EXCLAMATION
kONE,8TAI LAING DIGIT EIGHT,oFIVE,pOUR,oNINE,oONE,oSEVEN,pIX,oTHREE,pWO,oZERO
9ONE MARK SGAW KAREN HATHI,tKE PHO,8VOWEL SIGN AA,kI,lTON A,qI,jE,k ABOVE,jGEBA KAREN I,jI,kI
jKAYAH EE,pOE,pU,jMON II,nO,jSGAW KAREN EU,kHAN AA,oE,p ABOVE,oFINAL Y,jTALL AA,jU,kU,jVOCALIC L,sL
rR,sR,jWESTERN PWO KAREN EU,zN UE,0N-ARY CIRCLED DOT OPERATOR,ePLUS OPERATOR,eTIMES OPERATOR
7OPRODUCT,6INTERSECTION,6LOGICAL AND,eOR,6PRODUCT,6SQUARE INTERSECTION OPERATOR,dUNION OPERATOR
7UMMATION,6TIMES OPERATOR,6UNION,b OPERATOR WITH DOT,qPLUS,6WHITE VERTICAL BAR
1ABATAEAN CRUCIFORM NUMBER FOUR,aLETTER ALEPH,iYIN,hBETH,hDALETH,hFINAL ALEPH,nBETH,nHE,nKAPH
nLAMEDH,nMEM,nNUN,nSHIN,nYODH,hGIMEL,hHE,jTH,hKAPH,hLAMEDH,hMEM,hNUN,hPE,hQOPH,hRESH,hSADHE,jMEKH
iHIN,hTAW,iETH,hWAW,hYODH,hZAYIN,aNUMBER FIVE,iOUR,hONE,k HUNDRED,hTEN,iHREE,iWENTY,jO,3LA
2IL POLISH,3RA SIGN,2K,2ME BADGE,2ND,4INAGARI HEADSTROKE,cLETTER A,kA,kI,kU,jBA,kHA,jCA,kHA,jDA,kDA
lHA,kHA,jE,jGA,kHA,jHA,jI,kI,jJA,kHA,jKA,kHA,jLA,kLA,jMA,jNA,kGA,kNA,kYA,jO,jPA,kHA,jRA,kRA,jSA,kHA
kSA,jTA,kHA,kTA,lHA,jU,kU,jVA,kOCALIC R,sR,jYA,cSIGN ANUSVARA,iVAGRAHA,hSIDDHAM,hVIRAMA,jSARGA
cVOWEL SIGN AA,oI,oU,nE,nI,oI,nO,nPRISHTHAMATRA E,nU,oU,nVOCALIC R,wR,2RROW NO-BREAK SPACE
2TIONAL DIGIT SHAPES,9PARK,2USEATED FACE,2ZAR AMULET,1BH,2SP,1ECKTIE
2GATED DOUBLE VERTICAL BAR DOUBLE RIGHT TURNSTILE,5IVE ACKNOWLEDGE,9CIRCLED DIGIT ZERO
hLATIN CAPITAL LETTER A,zER B,zER C,zER D,zER E,zER F,zER G,zER H,zER I,zER J,zER K,zER L,zER M
zER N,zER O,zER P,zER Q,zER R,zER S,zER T,zER U,zER V,zER W,zER X,zER Y,zER Z,hNUMBER EIGHTEEN
pLEVEN,oFIFTEEN,pOURTEEN,oNINETEEN,oSEVENTEEN,pIXTEEN,oTHIRTEEN,pWELVE,rNTY,hSQUARE,hTRIANGLE
9DIAGONAL CROSS,iDIAMOND,iMIDDLE RIGHT TO LOWER CENTRE,9SQUARED AB,hCROSS MARK,hIC
hLATIN CAPITAL LETTER A,zER B,zER C,zER D,zER E,zER F,zER G,zER H,zER I,zER J,zER K,zER L,zER M
zER N,zER O,zER P,zER Q,zER R,zER S,zER T,zER U,zER V,zER W,zER X,zER Y,zER Z,hPA,hQUESTION MARK,hSA
hWC,2ITHER A SUBSET OF NOR EQUAL TO,cPERSET OF NOR EQUAL TO,9PPROXIMATELY NOR ACTUALLY EQUAL TO
8GREATER-THAN NOR EQUAL TO,sIVALENT TO,pLESS-THAN,8LESS-THAN NOR EQUAL TO,pIVALENT TO,mGREATER-THAN
2L,2PTUNE,7 FORM TWO,2RD FACE,2SSUS,3T WITH EGGS,4ING DOLLS,2UTER,4RAL CHESS BISHOP
k ROTATED NINETY DEGREES,tTWO HUNDRED SEVENTY DEGREES,eEQUIHOPPER,o ROTATED NINETY DEGREES,eKING
i ROTATED NINETY DEGREES,rTWO HUNDRED SEVENTY DEGREES,fNIGHT,k ROTATED FORTY-FIVE DEGREES
tNINETY DEGREES,tONE HUNDRED THIRTY-FIVE DEGREES,tTHREE HUNDRED FIFTEEN DEGREES
uWO HUNDRED SEVENTY DEGREES,zNDRED TWENTY-FIVE DEGREES,ePAWN,i ROTATED NINETY DEGREES
rTWO HUNDRED SEVENTY DEGREES,eQUEEN,j ROTATED NINETY DEGREES,sTWO HUNDRED SEVENTY DEGREES,eROOK
i ROTATED NINETY DEGREES,rTWO HUNDRED SEVENTY DEGREES,eTURNED BISHOP,lKING,mNIGHT,lPAWN,lQUEEN,lROOK
8FACE,2W LINE,4MOON SYMBOL,9WITH FACE,4SHEQEL SIGN,4TAI LUE DIGIT EIGHT,iFIVE,jOUR,iNINE,iONE,iSEVEN
jIX,iTHREE,jWO,iZERO,cLETTER FINAL B,pD,pK,pM,pN,qG,pV,jHIGH BA,oDA,oFA,oHA,oKA,pVA,oLA,oMA,oNA,pGA
oPA,pHA,oQA,oSA,pUA,oTA,pHA,pSA,oVA,oXA,pVA,oYA,jLOW BA,nDA,nFA,nHA,nKA,oVA,nLA,nMA,nNA,oGA,nPA,oHA
nQA,nSA,oUA,nTA,oHA,oSA,nVA,nXA,oVA,nYA,cSIGN LAE,kV,cTHAM DIGIT ONE,dONE MARK-1,m2,cVOWEL SIGN AA
pY,oE,oY,nE,nII,oY,nO,oA,pY,oY,nU,oE,pY,oU,oY,nVOWEL SHORTENER,3A ABBREVIATION SIGN,5COMMA,5DANDA
6IGIT EIGHT,bFIVE,cOUR,bNINE,bONE,bSEVEN,cIX,bTHREE,cWO,bZERO,6OUBLE COMMA,cDANDA,5GAP FILLER
5INSERTION SIGN,5LETTER A,dA,dI,dU,cBA,dHA,cCA,dHA,cDA,dDA,eHA,dHA,cE,cGA,dHA,cHA,cI,dI,cJA,dHA,cKA
dHA,cLA,dHA,cMA,dHA,cNA,dGA,eHA,dHA,dNA,dYA,eHA,cO,cPA,dHA,cRA,dHA,cSA,dHA,dSA,cTA,dHA,dTA,eHA,cU,dU
cVEDIC ANUSVARA,dOCALIC L,lL,kR,lR,cWA,cYA,5OM,5PLACEHOLDER MARK,5SANDHI MARK,6IDDHI,7GN ANUSVARA
bVAGRAHA,aCANDRABINDU,aFINAL ANUSVARA,aJIHVAMULIYA,aNUKTA,aUPADHMANIYA,aVIRAMA,cSARGA,5VOWEL SIGN AA
hI,hU,gE,gI,hI,gO,gU,hU,gVOCALIC L,pL,oR,pR,3LINE LEFT,8RIGHT,3SPAPER,2XT LINE,5PAGE
1IGHT WITH STARS,2NJA,1KO COMBINING DOUBLE DOT ABOVE,eLONG DESCENDING TONE,jHIGH TONE,jLOW TONE
jRISING TONE,eNASALIZATION MARK,eSHORT HIGH TONE,kLOW TONE,kRISING TONE,7MA,4DANTAYALAN,5IGIT EIGHT
aFIVE,bOUR,aNINE,aONE,aSEVEN,bIX,aTHREE,bWO,aZERO,5OROME SIGN,4EXCLAMATION MARK
4HIGH TONE APOSTROPHE,4LAJANYALAN,5ETTER A,bBA,bCHA,bDA,dGBASINNA,bE,cE,bFA,bGBA,bHA,bI,bJA,cONA CHA
gJA,gRA,bKA,bLA,bMA,bN,cA,d WOLOSO,cYA,e WOLOSO,bO,cO,bPA,bRA,cRA,bSA,bTA,bU,bWA,bYA
5OW TONE APOSTROPHE,4SYMBOL GBAKURUNEN,bOO DENNEN,4TAMAN SIGN,1L,1NBSP,1O BICYCLES,4REAK HERE,3ENTRY
8 SIGN,3MOBILE PHONES,3ONE UNDER EIGHTEEN SYMBOL,3PEDESTRIANS,4IRACY,3SMOKING SYMBOL,2-BREAK SPACE
2MINAL DIGIT SHAPES,4SMA SIGN,2N-BREAKING HYPHEN,4POTABLE WATER SYMBOL,3FORKING,2R,3DIC MARK SIGN
3MAL SUBGROUP OF,i OR EQUAL TO,3TH EAST AND SOUTH WEST ARROW,cRROW,g AND SOUTH EAST ARROW
hCROSSING NORTH WEST ARROW,qSOUTH EAST ARROW,hWITH HOOK,bBLACK ARROW,bDOUBLE ARROW,bPOINTING BUD
kLEAF,kVINE LEAF,bSANS-SERIF ARROW,bTRIANGLE-HEADED ARROW,w TO BAR,bWHITE ARROW
6INDIC FRACTION ONE EIGHTH,pHALF,pQUARTER,pSIXTEENTH,lTHREE QUARTERS,rSIXTEENTHS,cPLACEHOLDER MARK
cQUANTITY MARK,fRTER MARK,cRUPEE MARK,6WEST AND SOUTH EAST ARROW,cRROW,g AND NORTH EAST ARROW
hCROSSING NORTH EAST ARROW,hTO CORNER,kLONG BAR,hWITH HOOK,bBLACK ARROW,bDOUBLE ARROW,bPOINTING BUD
kLEAF,kVINE LEAF,bSANS-SERIF ARROW,bTRIANGLE-HEADED ARROW,w TO BAR,bWHITE ARROW
5EAST-POINTING AIRPLANE,2SE,2T A SUBSET OF,8PERSET OF,5LMOST EQUAL TO,5N ELEMENT OF
5SYMPTOTICALLY EQUAL TO,4CHECK MARK,4EQUAL TO,7IVALENT TO,4GREATER-THAN,4IDENTICAL TO,4LESS-THAN
4NORMAL SUBGROUP OF,m OR EQUAL TO,4PARALLEL TO,4SIGN,5QUARE IMAGE OF OR EQUAL TO
bORIGINAL OF OR EQUAL TO,4TILDE,5RUE,3CHED LEFT SEMICIRCLE WITH THREE DOTS
9OWER RIGHT-SHADOWED WHITE RIGHTWARDS ARROW,8RIGHT SEMICIRCLE WITH THREE DOTS
8UPPER RIGHT-SHADOWED WHITE RIGHTWARDS ARROW,3E,4 PAD,7GE,4BOOK,8 WITH DECORATIVE COVER,1UL,3L
2MBER EIGHTEEN FULL STOP,8LEVEN FULL STOP,7FIFTEEN FULL STOP,8OURTEEN FULL STOP,7NINETEEN FULL STOP
7SEVENTEEN FULL STOP,8IGN,9XTEEN FULL STOP,7TEN FULL STOP,8HIRTEEN FULL STOP,8WELVE FULL STOP
aNTY FULL STOP,3ERO SIGN,2SHU CHARACTER-1B170,k1,k2,k3,k4,k5,k6,k7,k8,k9,kA,kB,kC,kD,kE,kF,j80,k1,k2
k3,k4,k5,k6,k7,k8,k9,kA,kB,kC,kD,kE,kF,j90,k1,k2,k3,k4,k5,k6,k7,k8,k9,kA,kB,kC,kD,kE,kF,jA0,k1,k2,k3
k4,k5,k6,k7,k8,k9,kA,kB,kC,kD,kE,kF,jB0,k1,k2,k3,k4,k5,k6,k7,k8,k9,kA,kB,kC,kD,kE,kF,jC0,k1,k2,k3,k4
k5,k6,k7,k8,k9,kA,kB,kC,kD,kE,kF,jD0,k1,k2,k3,k4,k5,k6,k7,k8,k9,kA,kB,kC,kD,kE,kF,jE0,k1,k2,k3,k4,k5
k6,k7,k8,k9,kA,kB,kC,kD,kE,kF,jF0,k1,k2,k3,k4,k5,k6,k7,k8,k9,kA,kB,kC,kD,kE,kF,i200,k1,k2,k3,k4,k5
k6,k7,k8,k9,kA,kB,kC,kD,kE,kF,j10,k1,k2,k3,k4,k5,k6,k7,k8,k9,kA,kB,kC,kD,kE,kF,j20,k1,k2,k3,k4,k5,k6
k7,k8,k9,kA,kB,kC,kD,kE,kF,j30,k1,k2,k3,k4,k5,k6,k7,k8,k9,kA,kB,kC,kD,kE,kF,j40,k1,k2,k3,k4,k5,k6,k7
k8,k9,kA,kB,kC,kD,kE,kF,j50,k1,k2,k3,k4,k5,k6,k7,k8,k9,kA,kB,kC,kD,kE,kF,j60,k1,k2,k3,k4,k5,k6,k7,k8
k9,kA,kB,kC,kD,kE,kF,j70,k1,k2,k3,k4,k5,k6,k7,k8,k9,kA,kB,kC,kD,kE,kF,j80,k1,k2,k3,k4,k5,k6,k7,k8,k9
kA,kB,kC,kD,kE,kF,j90,k1,k2,k3,k4,k5,k6,k7,k8,k9,kA,kB,kC,kD,kE,kF,jA0,k1,k2,k3,k4,k5,k6,k7,k8,k9,kA
kB,kC,kD,kE,kF,jB0,k1,k2,k3,k4,k5,k6,k7,k8,k9,kA,kB,kC,kD,kE,kF,jC0,k1,k2,k3,k4,k5,k6,k7,k8,k9,kA,kB
kC,kD,kE,kF,jD0,k1,k2,k3,k4,k5,k6,k7,k8,k9,kA,kB,kC,kD,kE,kF,jE0,k1,k2,k3,k4,k5,k6,k7,k8,k9,kA,kB,kC
kD,kE,kF,jF0,k1,k2,k3,k4,k5,k6,k7,k8,k9,kA,kB,6ITERATION MARK,2T AND BOLT
1YIAKENG PUACHUE HMONG CIRCLED CA,nDIGIT EIGHT,tFIVE,uOUR,tNINE,tONE,tSEVEN,uIX,tTHREE,uWO,tZERO
nLETTER A,vA,uCA,uDA,vLA,uE,vE,uFA,uGA,uHA,wH,uI,uKA,uLA,uMA,vLA,uNA,vCA,vKA,vPA,wLA,vQA,vRA,vTA,wSA
wXA,vYA,uO,vO,uPA,vLA,uQA,uRA,vRA,uSA,uTA,vSA,vXA,uU,uVA,uW,uXA,vYA,uYA,uZA,oOGOGRAM NYAJ
nSIGN FOR ANIMAL,wINVERTEBRATE,wLOCATION,wPERSON,wTHING,sXW XW,oYLLABLE LENGTHENER,nTONE-B,sD,sG,sJ
sM,sS,sV,0OBJECT REPLACEMENT CHARACTER,2LIQUE ANGLE OPENING DOWN,mUP,8HYPHEN,2SERVER EYE SYMBOL
1CR AMOUNT OF CHECK,4BELT BUCKLE,5OW TIE,5RANCH BANK IDENTIFICATION,4CHAIR,5USTOMER ACCOUNT NUMBER
4DASH,5OUBLE BACKSLASH,4FORK,4HOOK,4INVERTED FORK,2TAGONAL SIGN,3OPUS,1DEN,1FFICE BUILDING
1GHAM FEATHER MARK,6LETTER AILM,dBEITH,dCEIRT,eOLL,dDAIR,dEABHADH,fDHADH,fMHANCHOLL,dFEARN,dGORT
dIFIN,eODHADH,dLUIS,dMUIN,dNGEADAL,eION,dONN,eR,dPEITH,dRUIS,dSAIL,eTRAIF,dTINNE,dUATH,eILLEANN,eR
6REVERSED FEATHER MARK,6SPACE MARK,2ONEK,1HM SIGN,1IL DRUM,1K HAND SIGN,1L CHIKI AHAD,9DIGIT EIGHT
fFIVE,gOUR,fNINE,fONE,fSEVEN,gIX,fTHREE,gWO,fZERO,9GAAHLAA TTUDDAAG,9LETTER AAJ,iK,iM,iW,hG,hL,hNG
hT,gEDD,hN,hP,hRR,gIH,hNY,hR,hS,gLA,iA,hE,hI,hO,hU,gOB,hH,hTT,hV,gUC,hD,hNN,hY,9MU TTUDDAG
b-GAAHLAA TTUDDAAG,9PHAARKAA,aUNCTUATION DOUBLE MUCAAD,lMUCAAD,9RELAA,2D CHINESE HOOK MARK
cITERATION MARK,4HUNGARIAN CAPITAL LETTER A,uA,uK,uMB,uND,tCLOSE E,tE,uB,uC,vH,vS,uD,uE,uF,uG,vY,uH
uJ,uK,uL,vY,uM,vP,uN,vC,vT,w-SHAPED SIGN,vY,uP,uR,uS,vZ,uT,vY,uV,uZ,vS,tI,uI,tNIKOLSBURG OE,zBURG UE
tO,uEE,uO,tRUDIMENTA OE,zNTA UE,tSHORT ER,tU,uNK,uS,uU,eNUMBER FIFTY,nVE,lONE,o HUNDRED,pTHOUSAND
lTEN,eSMALL LETTER A,sA,sK,sMB,sND,rCLOSE E,rE,sB,sC,tH,tS,sD,sE,sF,sG,tY,sH,sJ,sK,sL,tY,sM,tP,sN,tC
tT,u-SHAPED SIGN,tY,sP,sR,sS,tZ,sT,tY,sV,sZ,tS,rI,sI,rNIKOLSBURG OE,zRG UE,rO,sEE,sO,rRUDIMENTA OE
zA UE,rSHORT ER,rU,sNK,sS,sU,4ITALIC LETTER A,iBE,iCHE,iDE,iE,jF,jKS,jL,jM,jN,jR,kS,jS,kH,kS,iHE,iI
jI,iKA,jE,jHE,jU,iNORTHERN TSE,iO,iPE,jHE,iSHE,jOUTHERN TSE,iTE,jHE,iU,jU,iVE,iYE,iZE,bNUMERAL FIFTY
lVE,jONE,jTEN,4KEY,4NORTH ARABIAN LETTER AIN,qLEF,pBEH,pDAD,rL,pES-1,s2,s3,pFEH,pGEEM,qHAIN,pHAH,qEH
pKAF,qHAH,pLAM,pMEEM,pNOON,pQAF,pREH,pSAD,pTAH,qEH,qHAL,rEH,pWAW,pYEH,pZAH,rIN,iNUMBER ONE,pTEN
qWENTY,4PERMIC LETTER AN,iBUR,iCHERY,iDOI,jZHOI,kITA,iE,jF,iGAI,iHA,iI,jA,jE,iKOKE,iLEI,iMENOE
iNENOE,iO,jO,iPEEI,iREI,iSHCHOOI,kOOI,jII,iTAI,jSIU,iU,iVER,jOOI,iYA,kT,jER,lI,lU,jRY,jU,iZATA,jHOI
7SIAN NUMBER HUNDRED,jONE,jTEN,kWENTY,lO,cSIGN A,iURAMAZDAA,r-2,rHA,hBA,jGA,iUUMISH,hCA,hDA,jHYAAUSH
q-2,iI,iU,hFA,hGA,iU,hHA,hI,hJA,iI,hKA,iU,hLA,hMA,iI,iU,hNA,iU,hPA,hRA,iU,hSA,iHA,iSA,hTA,iHA,iU,hU
hVA,iI,hXA,iSHAAYATHIYA,hYA,hZA,cWORD DIVIDER,8ONAL COMPUTER,4SOGDIAN FRACTION ONE HALF
cLETTER ALEPH,lTERNATE AYIN,kYIN,jBETH,jFINAL ALEPH,pBETH,pHE,pNUN,s WITH VERTICAL TAIL,pSADHE
u WITH VERTICAL TAIL,pTAW,s WITH VERTICAL TAIL,jGIMEL,jHE,lTH,jKAPH,jLAMEDH,jMEM,jNUN,jPE
jRESH-AYIN-DALETH,jSADHE,lMEKH,kHIN,jTAW,jWAW,jYODH,jZAYIN,dIGATURE AYIN-DALETH,cNUMBER FIVE,kOUR
jONE,m HUNDRED,jTEN,kHIRTY,lREE,kWENTY,lO,6UTH ARABIAN LETTER ALEF,qYN,pBETH,pDALETH,qHADHE,sLETH
pFE,pGHAYN,qIMEL,pHE,rTH,pKAPH,qHETH,pLAMEDH,pMEM,pNUN,pQOPH,pRESH,pSADHE,rMEKH,rT,qHIN,pTAW,qETH
qHAW,rETH,pWAW,pYODH,pZAYN,iNUMBER FIFTY,pONE,lERIC INDICATOR,4TURKIC LETTER ORKHON A,qB,qD,qEB,rD
rG,rK,rL,rN,rR,rS,rT,rY,qG,qL,qN,qQ,qR,qS,rH,qT,qY,pBASH,pEC,qLT,qM,qNC,rG,rT,rY,qP,qSH,qZ,pI,qC,qQ
pO,qE,rK,qP,qQ,qT,iYENISEI A,rB,rD,rE,sB,sG,sK,sN,tG,sT,sY,rG,rL,rNG,rQ,rR,rSH,rT,rY,qE,rC,rNC,sT,sY
rSH,rZ,qI,rQ,qOE,sK,rQ,4UYGHUR COMBINING DOT ABOVE,pBELOW,lTWO DOTS ABOVE,uBELOW,bLETTER ALEPH,iBETH
iFINAL HETH,iGIMEL-HETH,iKAPH,iLAMEDH,jESH,iMEM,iNUN,iPE,iRESH,iSADHE,kMEKH,jHIN,iTAW,iWAW,iYODH
iZAYIN,bPUNCTUATION BAR,nFOUR DOTS,nTWO BARS,rDOTS,3ER ADULT,6MAN,6WOMAN,2IVE,1M SYMBOL
1N WITH EXCLAMATION MARK WITH LEFT RIGHT ARROW ABOVE,2COMING AUTOMOBILE,9BUS,9FIRE ENGINE
9POLICE CAR,9TAXI,2E BUTTON MOUSE,4DOT LEADER,8OVER TWO DOTS PUNCTUATION,3-PIECE SWIMSUIT,2ION
1PEN BOOK,7X,5CENTRE ASTERISK,cBLACK STAR,cCROSS,cTEARDROP-SPOKED ASTERISK,5FILE FOLDER,6OLDER
5HANDS SIGN,5LOCK,5MAILBOX WITH LOWERED FLAG,iRAISED FLAG,5SUBSET,7PERSET
4-CIRCUIT-OUTPUT H-TYPE SYMBOL,kL-TYPE SYMBOL,5OUTLINED RIGHTWARDS ARROW,3RATING SYSTEM COMMAND
2HIUCHUS,2POSITION,2TICAL DISC,c ICON,4ON KEY,1R WITH DOT INSIDE,2ANGE BOOK,7HEART,5UTAN,2IGINAL OF
3YA AI LENGTH MARK,7U LENGTH MARK,6DIGIT EIGHT,cFIVE,dOUR,cNINE,cONE,cSEVEN,dIX,cTHREE,dWO,cZERO
6FRACTION ONE EIGHTH,jHALF,jQUARTER,jSIXTEENTH,fTHREE QUARTERS,lSIXTEENTHS,6ISSHAR,6LETTER A,eA,eI
eU,dBA,eHA,dCA,eHA,dDA,eDA,fHA,eHA,dE,dGA,eHA,dHA,dI,eI,dJA,eHA,dKA,eHA,dLA,eLA,dMA,dNA,eGA,eNA,eYA
dO,dPA,eHA,dRA,eHA,eRA,dSA,eHA,eSA,dTA,eHA,eTA,fHA,dU,eU,dVA,eOCALIC L,mL,lR,mR,dWA,dYA,eYA
6SIGN ANUSVARA,cVAGRAHA,bCANDRABINDU,bNUKTA,bOVERLINE,bVIRAMA,dSARGA,6VOWEL SIGN AA,iI,iU,hE,hI,iI
hO,hU,iU,hVOCALIC L,qL,pR,qR,2NATE LEFT PARENTHESIS,7RIGHT PARENTHESIS,2THODOX CROSS
1SAGE CAPITAL LETTER A,mH,mI,nN,lBRA,lCHA,lDHA,lE,mHCHA,nKA,nPA,nTA,oSA,mIN,lGHA,lHA,mYA,lI,lKA,mHA
mYA,lLA,lMA,lNA,lO,mIN,lPA,lSA,mHA,lTA,mSA,nHA,lU,lWA,lZA,mHA,6SMALL LETTER A,kH,kI,lN,jBRA,jCHA
jDHA,jE,kHCHA,lKA,lPA,lTA,mSA,kIN,jGHA,jHA,kYA,jI,jKA,kHA,kYA,jLA,jMA,jNA,jO,kIN,jPA,jSA,kHA,jTA,kSA
lHA,jU,jWA,jZA,kHA,2C,2MANYA DIGIT EIGHT,eFIVE,fOUR,eNINE,eONE,eSEVEN,fIX,eTHREE,fWO,eZERO,8LETTER A
gA,gLEF,fBA,fCAYN,fDEEL,gHA,fE,gE,fFA,fGA,fHA,fI,fJA,fKAAF,gHA,fLAAN,fMIIN,fNUUN,fO,gO,fQAAF,fRA,fSA
gHIIN,fTA,fU,fWAW,fXA,fYA,1TTER,3OMAN SIYAQ ALTERNATE NUMBER EIGHT,vFIVE,wOUR,z HUNDRED,vNINE,vSEVEN
wIX,y HUNDRED,vTEN,y THOUSAND,wHREE,wWO,y THOUSAND,eFRACTION ONE HALF,rSIXTH,eMARRATAN,eNUMBER EIGHT
q HUNDRED,rTHOUSAND,qY,r THOUSAND,lFIFTY,q THOUSAND,nVE,p HUNDRED,qTHOUSAND,mORTY,q THOUSAND,nUR
p HUNDRED,qTHOUSAND,lNINE,p HUNDRED,qTHOUSAND,pTY,r THOUSAND,lONE,o HUNDRED,pTHOUSAND,lSEVEN
q HUNDRED,rTHOUSAND,qTY,s THOUSAND,mIX,o HUNDRED,pTHOUSAND,oTY,q THOUSAND,lTEN,o THOUSAND,mHIRTY
r THOUSAND,nREE,q HUNDRED,rTHOUSAND,mWENTY,r THOUSAND,nO,o HUNDRED,pTHOUSAND,1UNCE SIGN,2TBOX TRAY
3LINED BLACK STAR,9GREEK CROSS,9LATIN CROSS,9WHITE STAR,1VERHEATED FACE,4LAP,7PING BLACK SQUARES
cWHITE AND BLACK SQUARES,iSQUARES,5INE,1WL,1X,1YSTER,0PACKAGE,2D,3DING CHARACTER,2GE,4 FACING UP
5WITH CIRCLED TEXT,bURL,4R,4S,3ODA,2HAWH HMONG CLAN SIGN FAJ,nHAM,pWJ,nKHAB,oOO,oWM,nLAUJ,oIS,nMUAS
nPHAB,nTHOJ,oSAB,pHEEJ,pWB,nVAJ,oWJ,nXYOOJ,nYAJ,oEEG,eONSONANT AU,nCAU,oHAU,nHAU,oLAU,oNAU,nLAU,nMAU
nNAU,oCHAU,oKAU,oLAU,oTHAU,pSAU,nPLHAU,nQHAU,nRAU,nVAU,nXAU,nYAU,dDIGIT EIGHT,jFIVE,kOUR,jNINE,jONE
jSEVEN,kIX,jTHREE,kWO,jZERO,dMARK CIM HOM,mKES,nHAV,mSO,nUAM,mTAUM,nUB,dNUMBER HUNDRED MILLIONS,rS
kMILLIONS,kTEN BILLIONS,oTHOUSANDS,nS,lRILLIONS,dSIGN AV,iCIM CHEEM,nUAM TSHOOJ,mHAIS LUS NTOG NTOG
mNRES TOS,mPUB DAWB,mTSOV ROG,nXWV,q CHWV,iHLI,jNUB,iIB YAM,iLOS,iMEEJ SUAB,nTSEEB,jUS,iNQIG,jTUJ
iTAU,jHIRD-STAGE HLI,jXHEEJ CEEV,iVOS FEEM,mLUB,mNRUA,mSEEV,mTHIAB,oOM,nSHAB CEEB,iXAUS,jIAB
jYEEM FAIB,oNTXIV,oRHO,oTOV,kOO,iZWJ THAJ,dVOWEL KAAB,mV,lB,lIB,mV,lUB,mV,lV,lWB,mV,kEB,lEB,mV,lV
kIAB,mV,lB,lV,kOB,lOB,mV,lV,kUAB,mV,lB,lV,kWB,lV,2LLAS,3M BRANCH,5DOWN HAND,5TREE,5UP HAND
4S UP TOGETHER,4YRENE LEFT-POINTING FLEURON,cTTER ALEPH,iYIN,hBETH,hDALETH,hFINAL NUN,hGIMEL,hHE,jTH
hKAPH,hLAMEDH,hMEM,hNUN,hPE,hQOPH,hRESH,hSADHE,jMEKH,iHIN,hTAW,iETH,hWAW,hYODH,hZAYIN,aNUMBER FIVE
iOUR,hONE,hTEN,iHREE,iWENTY,jO,aRIGHT-POINTING FLEURON,2NCAKES,3DA FACE,2PERCLIP,2RACHUTE
4GRAPH SEPARATOR,9OS,9US MARK,4LLEL TO,9WITH HORIZONTAL STROKE,eTILDE OPERATOR
3ENTHESIZED DIGIT EIGHT,kFIVE,lOUR,kNINE,kONE,kSEVEN,lIX,kTHREE,lWO,eHANGUL CHIEUCH,s A,mIEUC,q A,rU
lHIEUH,q A,lIEUNG,q A,lKHIEUKH,s A,mIYEOK,r A,lMIEUM,q A,lNIEUN,q A,lPHIEUPH,s A,mIEUP,q A,lRIEUL
q A,lSIOS,p A,lTHIEUTH,s A,mIKEUT,r A,eIDEOGRAPH ALLIANCE,oCALL,pONGRATULATION,oEARTH,pIGHT
pNTERPRISE,oFESTIVAL,pINANCIAL,qRE,qVE,pOUR,oHAVE,oLABOR,oMETAL,pOON,oNAME,pINE,oONE,oREACH,qPRESENT
qSOURCE,rT,oSELF,qVEN,pIX,pOCIETY,pPECIAL,pTOCK,qUDY,pUN,qPERVISE,oTEN,pHREE,pWO,oWATER,pOOD
eKOREAN CHARACTER O HU,wJEON,eLATIN CAPITAL LETTER A,zB,zC,zD,zE,zF,zG,zH,zI,zJ,zK,zL,zM,zN,zO,zP,zQ
zR,zS,zT,zU,zV,zW,zX,zY,zZ,kSMALL LETTER A,xB,xC,xD,xE,xF,xG,xH,xI,xJ,xK,xL,xM,xN,xO,xP,xQ,xR,xS,xT
xU,xV,xW,xX,xY,xZ,eNUMBER EIGHTEEN,mLEVEN,lFIFTEEN,mOURTEEN,lNINETEEN,lSEVENTEEN,mIXTEEN,lTEN
mHIRTEEN,mWELVE,oNTY,3ROT,3T ALTERNATION MARK,4IAL DIFFERENTIAL,8LINE BACKWARD,dDOWN,dFORWARD,dUP
7LY-RECYCLED PAPER SYMBOL,4NERSHIP SIGN,4Y POPPER,2SSED SYMBOL,5NGER SHIP
4IVE-PULL-DOWN-OUTPUT SYMBOL,dUP-OUTPUT SYMBOL,4PORT CONTROL,2U CIN HAU GLOTTAL STOP,o FINAL
pVARIANT,cLETTER A,jBA,jCA,kHA,jDA,jE,jFA,kINAL K,pL,pM,pN,qG,pP,pT,pW,pY,jGA,jHA,jI,kA,jKA,kHA,jLA
jMA,jNA,kGA,jO,jPA,kHA,jRA,jSA,jTA,kHA,jU,kA,jVA,jZA,dOW-FALLING TONE,s FINAL,tLONG,x FINAL
cMID-LEVEL TONE,q FINAL,rLONG FINAL,cRISING TONE,n FINAL,oLONG,s FINAL,cSANDHI GLOTTAL STOP,v FINAL
jTONE,n FINAL,oLONG,s FINAL,2W PRINTS,1DF,2I,1EACE SYMBOL,4H,4OCK,3NUTS,3R,2DESTRIAN
2N OVER STAMPED ENVELOPE,3CIL,3GUIN,3SIVE FACE,3TAGRAM,2OPLE HUGGING,2R MILLE SIGN,4SIGN
4TEN THOUSAND SIGN,3CENT SIGN,3FORMING ARTS,3MANENT PAPER SIGN,3PENDICULAR,d WITH S,3SEVERING FACE
4ON BOWING DEEPLY,7CLIMBING,7DOING CARTWHEEL,7FROWNING,7IN LOTUS POSITION,aSTEAMY ROOM
7RAISING BOTH HANDS IN CELEBRATION,7WITH BALL,dLOND HAIR,cCROWN,cFOLDED HANDS,cHEADSCARF
cPOUTING FACE,6AL COMPUTER,4PECTIVE,2SETA SIGN,3O SIGN,2TRI DISH,1HAGS-PA DOUBLE HEAD MARK,9LETTER A
hLTERNATE YA,hSPIRATED FA,gBA,gCA,iNDRABINDU,hHA,gDA,hDA,hZA,gE,hE,gFA,gGA,hGA,gHA,gI,gJA,gKA,hHA
gLA,gMA,gNA,hGA,hNA,hYA,gO,gPA,hHA,gQA,gRA,gSA,hHA,hMALL A,gTA,hHA,hSA,iHA,hTA,iHA,gU,gVOICED HA
lLESS SHA,gWA,gXA,gYA,gZA,hHA,9MARK DOUBLE SHAD,eSHAD,9SINGLE HEAD MARK,aUBJOINED LETTER RA,qWA,qYA
bPERFIXED LETTER RA,3ISTOS DISC SIGN ARROW,jBEE,mHIVE,kOOMERANG,lW,kULLS LEG,jCAPTIVE,lRPENTRY PLANE
lT,kHILD,kLUB,kOLUMN,lMB,nINING OBLIQUE STROKE,jDOLIUM,lVE,jEAGLE,jFLUTE,jGAUNTLET,kRATER,jHELMET
kIDE,kORN,jLID,lLY,jMANACLES,lTTOCK,jOX BACK,jPAPYRUS,kEDESTRIAN,kLANE TREE,lUMED HEAD,jRAM,kOSETTE
jSAW,kHIELD,mP,kLING,kMALL AXE,kTRAINER,jTATTOOED HEAD,kIARA,kUNNY,jVINE,jWAVY BAND,kOMAN
2ILIPPINE DOUBLE PUNCTUATION,bSINGLE PUNCTUATION,2OENICIAN LETTER AIN,jLF,iBET,iDELT,iGAML,iHE,kT
iKAF,iLAMD,iMEM,iNUN,iPE,iQOF,iROSH,iSADE,jEMK,jHIN,iTAU,jET,iWAU,iYOD,iZAI,bNUMBER ONE,l HUNDRED
iTEN,jHREE,jWENTY,kO,bWORD SEPARATOR,3LUS,1ICK,4UP TRUCK,2E,2G,3 FACE,4NOSE,2LCROW SIGN,3E OF POO,3L
2NATA,3CHED FINGERS,5ING HAND,3E DECORATION,4APPLE,3WHEEL STAR,2SCES,3TOL,2TCHFORK,9 WITH TEE TOP
1LACARD,4E OF INTEREST SIGN,9WORSHIP,3NCK CONSTANT,f OVER TWO PI,3YGROUND SLIDE
4ING CARD ACE OF CLUBS,kDIAMONDS,kHEARTS,kSPADES,dBACK,eLACK JOKER,dEIGHT OF CLUBS,mDIAMONDS,mHEARTS
mSPADES,dFIVE OF CLUBS,lDIAMONDS,lHEARTS,lSPADES,eOOL,fUR OF CLUBS,lDIAMONDS,lHEARTS,lSPADES
dJACK OF CLUBS,lDIAMONDS,lHEARTS,lSPADES,dKING OF CLUBS,lDIAMONDS,lHEARTS,lSPADES,eNIGHT OF CLUBS
nDIAMONDS,nHEARTS,nSPADES,dNINE OF CLUBS,lDIAMONDS,lHEARTS,lSPADES,dQUEEN OF CLUBS,mDIAMONDS,mHEARTS
mSPADES,dRED JOKER,dSEVEN OF CLUBS,mDIAMONDS,mHEARTS,mSPADES,eIX OF CLUBS,kDIAMONDS,kHEARTS,kSPADES
dTEN OF CLUBS,kDIAMONDS,kHEARTS,kSPADES,eHREE OF CLUBS,mDIAMONDS,mHEARTS,mSPADES,eRUMP-1,k0,k1,k2,k3
k4,k5,k6,k7,k8,k9,j2,k0,k1,j3,j4,j5,j6,j7,j8,j9,eWO OF CLUBS,kDIAMONDS,kHEARTS,kSPADES,dWHITE JOKER
2D,2U,3NGER,3S SIGN,9 ABOVE EQUALS SIGN,aIN LEFT HALF CIRCLE,dRIGHT HALF CIRCLE,dTRIANGLE
aWITH BLACK TRIANGLE,fCIRCUMFLEX ACCENT ABOVE,fDOT BELOW,fSMALL CIRCLE ABOVE,gUBSCRIPT TWO
fTILDE ABOVE,lBELOW,4-MINUS SIGN,3TO,5 FORM FIVE,cOUR,bTHREE,cWO,1M,1OCKET CALCULATOR,2LICE CAR
aS REVOLVING LIGHT,7OFFICER,2ODLE,2P DIRECTIONAL FORMATTING,gISOLATE,3CORN,2RTABLE STEREO,2SEIDON
3ITION INDICATOR,3TAL HORN,7MARK,b FACE,4BOX,2T OF FOOD,3ABLE WATER SYMBOL,4TO,3TED PLANT,2UCH
3LTRY LEG,3ND SIGN,3RING LIQUID,3TING CAT FACE,8FACE,2WER ON SYMBOL,8-OFF SYMBOL,6SLEEP SYMBOL
7YMBOL,1RAYER BEADS,2ECEDES,8 ABOVE ALMOST EQUAL TO,fEQUALS SIGN,fNOT ALMOST EQUAL TO,jEQUAL TO
fSINGLE-LINE EQUALS SIGN,rNOT EQUAL TO,9BUT NOT EQUIVALENT TO,9OR EQUAL TO,fIVALENT TO
9UNDER RELATION,3GNANT MAN,9PERSON,9WOMAN,3SCRIPTION TAKE,4ENTATION FORM FOR VERTICAL COLON,xMMA
vEM DASH,wN DASH,wXCLAMATION MARK,vHORIZONTAL ELLIPSIS,vIDEOGRAPHIC COMMA,zGRAPHIC FULL STOP
vLEFT ANGLE BRACKET,z BLACK LENTICULAR BRACKET,z CORNER BRACKET,z CURLY BRACKET
z DOUBLE ANGLE BRACKET,z PARENTHESIS,z SQUARE BRACKET,z TORTOISE SHELL BRACKET
z WHITE CORNER BRACKET,z WHITE LENTICULAR BRACKET,wOW LINE,vQUESTION MARK,vRIGHT ANGLE BRACKET
zT BLACK LENTICULAR BRACKET,zT CORNER BRACKET,zT CURLY BRACKET,zT DOUBLE ANGLE BRACKET
zT PARENTHESIS,zT SQUARE BRACKET,zT TORTOISE SHELL BRACKET,zT WHITE CORNER BRACKET
zT WHITE LENTICULAR BRACKET,zT WHITE LENTICULAR BRAKCET,vSEMICOLON,vTWO DOT LEADER,vWAVY LOW LINE
3TZEL,3VIOUS PAGE,2IME,3NCE,6SS,4T SCREEN SYMBOL,5ER,7 ICON,3VACY MESSAGE,5TE USE ONE,cTWO,b-1,c2
2OBING CANE,3HIBITED SIGN,3JECTIVE,3PERTY LINE,4ORTION,aAL TO,3SERPINA
1SALTER PAHLAVI FOUR DOTS WITH CROSS,vDOT,gLETTER ALEPH,nBETH,nDALETH,nGIMEL,nHE,pTH,nKAPH,nLAMEDH
nMEM-QOPH,nNUN,nPE,nSADHE,pMEKH,oHIN,nTAW,nWAW-AYIN-RESH,nYODH,nZAYIN,gNUMBER FOUR,nONE,q HUNDRED
nTEN,oHREE,oWENTY,pO,gSECTION MARK,gTURNED SECTION MARK,1U1,22,2BLIC ADDRESS LOUDSPEAKER
2NCTUATION SPACE,6S ELEVATUS MARK,2RPLE HEART,3SE,2SHPIN,2T LITTER IN ITS PLACE SYMBOL
0QUADRANT LOWER LEFT,fRIGHT,9UPPER LEFT,j AND LOWER LEFT AND LOWER RIGHT,uRIGHT
oUPPER RIGHT AND LOWER LEFT,z AND LOWER RIGHT,fRIGHT,k AND LOWER LEFT,z AND LOWER RIGHT
5UPLE INTEGRAL OPERATOR,aPRIME,3RTER NOTE,3TERNION INTEGRAL OPERATOR,2ESTION EXCLAMATION MARK,9MARK
8ED EQUAL TO,2INCUNX,2OTATION MARK,0RABBIT,6 FACE,2CCOON,3ING CAR,7MOTORCYCLE,2DICAL SYMBOL BOTTOM
4O,5 BUTTON,5ACTIVE SIGN,2ILWAY CAR,8TRACK,3N,4BOW,3SED BACK OF HAND,7COMMA,7DOT
aTED INTERPOLATION MARKER,7FIST,7HAND,b WITH FINGERS SPLAYED,hPART BETWEEN MIDDLE AND RING FINGERS
7INTERPOLATION MARKER,7MC SIGN,8D SIGN,8R SIGN,7SQUARE,2M,2T,3IO,2ZOR,1ECEIPT,3ORD SEPARATOR
3REATIONAL VEHICLE,3YCLED PAPER SYMBOL,6ING SYMBOL FOR GENERIC MATERIALS,lTYPE-1 PLASTICS
q2 PLASTICS,q3 PLASTICS,q4 PLASTICS,q5 PLASTICS,q6 PLASTICS,q7 PLASTICS,2D APPLE,4GIFT ENVELOPE
2FERENCE MARK,2GIONAL INDICATOR SYMBOL LETTER A,xB,xC,xD,xE,xF,xG,xH,xI,xJ,xK,xL,xM,xN,xO,xP,xQ,xR
xS,xT,xU,xV,xW,xX,xY,xZ,4STERED SIGN,2JANG CONSONANT SIGN H,mN,nG,mR,7LETTER A,eBA,eCA,eDA,eGA,eHA
eJA,eKA,eLA,eMA,fBA,eNA,fDA,fGA,gGA,fYA,gJA,ePA,eRA,eSA,eTA,eWA,eYA,7SECTION MARK,7VIRAMA
8OWEL SIGN AI,jU,iE,jA,jU,iI,iO,iU,2LIEVED FACE,2MINDER RIBBON,2PLACEMENT CHARACTER,2SPONSE
3TRICTED LEFT ENTRY-1,m2,5OOM,2TURN LEFT,7RIGHT,7SYMBOL,2VERSE CHECKER BOARD,8INDEX
8LIGHT FOUR POINTED PINWHEEL STAR,aNE FEED,8SOLIDUS,f OPERATOR,gPRECEDING SUBSET
gWITH HORIZONTAL STROKE,8TILDE OPERATOR ABOVE LEFTWARDS ARROW,tRIGHTWARDS ARROW,7D ANGLE
e WITH UNDERBAR,9COMMA,9DOUBLE PRIME,l QUOTATION MARK,gSTROKE NOT SIGN,9EMPTY SET
9FORKED PARAGRAPHOS,9HAND WITH MIDDLE FINGER EXTENDED,9NOT SIGN,9PILCROW SIGN,aRIME,9QUESTION MARK
9RAISED HAND WITH FINGERS SPLAYED,aIGHT ANGLE,aOTATED FLORAL HEART BULLET,9SANS-SERIF CAPITAL L
aEMICOLON,9THUMBS DOWN SIGN,gUP SIGN,aILDE,e EQUALS,aRIPLE PRIME,9VICTORY HAND,3OLVING HEARTS
1HINOCEROS,1I,2AL SIGN,2BBON,6 ARROW DOWN LEFT,iRIGHT,dLEFT DOWN,iUP,dRIGHT DOWN,jUP,dUP LEFT,gRIGHT
2CE BALL,5CRACKER,2FLE,2GHT AND LOWER ONE EIGHTH BLOCK,aUPPER ONE EIGHTH BLOCK,8GER BUBBLE,9LE
b BRACKET,j WITH DOT,cDOTTED SUBSTITUTION MARKER,cSUBSTITUTION MARKER,cVARIANT WITH SQUARE,cWITH ARC
hDOWNWARDS ZIGZAG ARROW,7RC GREATER-THAN BRACKET,8ROW WITH CIRCLED PLUS,hSMALL CIRCLE
6BLACK LENTICULAR BRACKET,cTORTOISE SHELL BRACKET,6CEILING,7ORNER BRACKET,7URLY BRACKET,j LOWER HOOK
kMIDDLE PIECE,kUPPER HOOK,6DOTTED SUBSTITUTION BRACKET,8UBLE ANGLE BRACKET,eRROW WITH ROUNDED HEAD
dPARENTHESIS,dQUOTATION MARK,dWIGGLY FENCE,6FISH TAIL,8VE EIGHTHS BLOCK,7LOOR,6HALF BLACK CIRCLE
hSTAR,dOCK,bFOLDER,bMEDIUM SHADE,bRUNNING MAN,8ND TELEPHONE RECEIVER,6LOW PARAPHRASE BRACKET
6NORMAL FACTOR SEMIDIRECT PRODUCT,6ONE EIGHTH BLOCK,aQUARTER BLOCK,7PEN SQUARED DOT,7UTER JOIN
6PARENTHESIS,h EXTENSION,iLOWER HOOK,iUPPER HOOK,6RAISED OMISSION BRACKET,6S-SHAPED BAG DELIMITER
7EMIDIRECT PRODUCT,8VEN EIGHTHS BLOCK,7IDEWAYS U BRACKET,8NGLE QUOTATION MARK,7PEAKER
d WITH ONE SOUND WAVE,jTHREE SOUND WAVES,9ECH BUBBLE,7QUARE BRACKET,k EXTENSION,lLOWER CORNER
lUPPER CORNER,lWITH DOUBLE STROKE,qQUILL,qSTROKE,qTICK IN BOTTOM CORNER,yTOP CORNER,qUNDERBAR
7UBSTITUTION BRACKET,6TACK,7HIRD WHITE RIGHT POINTING INDEX,8OUGHT BUBBLE,8REE EIGHTHS BLOCK
cQUARTERS BLOCK,7ORTOISE SHELL BRACKET,7RANSPOSITION BRACKET,8IANGLE,e ABOVE LEFT TRIANGLE
cULAR ONE QUARTER BLOCK,6VERTICAL BAR WITH QUILL,gOX LINE,6WHITE CORNER BRACKET,dURLY BRACKET
cLENTICULAR BRACKET,cPARENTHESIS,cSQUARE BRACKET,cTORTOISE SHELL BRACKET,7IGGLY FENCE
5-FACING ARMENIAN ETERNITY SIGN,dFIST,dSVASTI SIGN,o WITH DOTS,6HANDED INTERLACED PENTAGRAM
6POINTING ANGLE BRACKET,fCURVED ANGLE BRACKET,fDOUBLE ANGLE QUOTATION MARK,fMAGNIFYING GLASS
6SHADED WHITE RIGHTWARDS ARROW,7IDE ARC CLOCKWISE ARROW,6TO-LEFT EMBEDDING,eISOLATE,eMARK,eOVERRIDE
5HAND INTERIOR PRODUCT,5WARDS ARROW,g ABOVE ALMOST EQUAL TO,nREVERSE ALMOST EQUAL TO,vTILDE OPERATOR
nSHORT LEFTWARDS ARROW,nTILDE OPERATOR,iND UPPER AND LOWER ONE EIGHTH BLOCK,hFROM BAR
p TO BLACK DIAMOND,hOVER LEFTWARDS ARROW,hTHROUGH GREATER-THAN,pSUPERSET,pX,iO BAR,lLACK DIAMOND
hWITH CORNER DOWNWARDS,mDOTTED STEM,oUBLE VERTICAL STROKE,mEQUILATERAL ARROWHEAD,mHOOK
mLARGE TRIANGLE ARROWHEAD,nOOP,mMEDIUM TRIANGLE ARROWHEAD,mNOTCHED TAIL,mPLUS BELOW
mSMALL EQUILATERAL ARROWHEAD,sTRIANGLE ARROWHEAD,nTROKE,mTAIL,q WITH DOUBLE VERTICAL STROKE
wVERTICAL STROKE,nIP DOWNWARDS,qUPWARDS,mVERTICAL STROKE,g-TAIL,bBACK-TILTED SHADOWED WHITE ARROW
cLACK ARROW,hCIRCLED WHITE ARROW,cOTTOM SHADED WHITE ARROW,bCOMPRESSED ARROW,bDASHED ARROW
cOUBLE ARROW,n FROM BAR,oWITH STROKE,tVERTICAL STROKE,n-TAIL,iDASH ARROW,bFINGER-POST ARROW
cRONT-TILTED SHADOWED WHITE ARROW,bHAND,dRPOON OVER LEFTWARDS HARPOON
jWITH BARB DOWN ABOVE LEFTWARDS HARPOON WITH BARB DOWN,yBELOW LONG DASH,yFROM BAR,yTO BAR,xWARDS
tUP ABOVE LEFTWARDS HARPOON WITH BARB UP,zVE LONG DASH,zVE RIGHTWARDS HARPOON WITH BARB DOWN
wFROM BAR,wTO BAR,vWARDS,cEAVY ARROW,hCOMPRESSED ARROW,bLEFT-SHADED WHITE ARROW,bOPEN-HEADED ARROW
bPAIRED ARROWS,bQUADRUPLE ARROW,bRIGHT-SHADED WHITE ARROW,cOCKET,bSANS-SERIF ARROW,cQUARED ARROW
eIGGLE ARROW,bTOP SHADED WHITE ARROW,cRIANGLE ARROWHEAD,j-HEADED ARROW
w OVER LEFTWARDS TRIANGLE-HEADED ARROW,xTO BAR,xWITH BOLD SHAFT,zTH DOUBLE HORIZONTAL STROKE
zTH DOUBLE VERTICAL STROKE,zTH HEAVY SHAFT,zTH LONG TIP DOWNWARDS,zTH LONG TIP UPWARDS
zTH MEDIUM SHAFT,zTH NARROW SHAFT,zTH VERY HEAVY SHAFT,rDASHED ARROW,rPAIRED ARROWS,ePLE ARROW
iDASH ARROW,cWO HEADED ARROW,e-HEADED ARROW FROM BAR,sWITH DOUBLE VERTICAL STROKE,xTAIL
zIL WITH DOUBLE VERTICAL STROKE,zIL WITH VERTICAL STROKE,yRIANGLE ARROWHEADS,xVERTICAL STROKE
mTRIPLE DASH ARROW,bWAVE ARROW,cHITE ARROW,m FROM WALL,nWITHIN TRIANGLE ARROWHEAD,2NG,4 ABOVE,5BUOY
5EQUAL TO,5IN EQUAL TO,5OPERATOR,5POINT,4ED PLANET,4ING BELL
2SING DIAGONAL CROSSING FALLING DIAGONAL,pSOUTH EAST ARROW,1LE,2I,2M,2O,1OASTED SWEET POTATO
2BOT FACE,2CK,4ET,2LL OF PAPER,4ED-UP NEWSPAPER,5R COASTER,7SKATE,4ING ON THE FLOOR LAUGHING
2MAN AS SIGN,6CENTURIAL SIGN,6DENARIUS SIGN,7IMIDIA SEXTULA SIGN,7UPONDIUS SIGN,6NUMERAL EIGHT
fLEVEN,eFIFTY,j EARLY FORM,kTHOUSAND,gVE,i HUNDRED,jTHOUSAND,fOUR,eNINE,eONE,h HUNDRED,p THOUSAND
iTHOUSAND,q C D,eREVERSED ONE HUNDRED,eSEVEN,fIX,h LATE FORM,eTEN,h THOUSAND,fHREE,fWELVE,gO
6QUINARIUS SIGN,6SEMUNCIA SIGN,8STERTIUS SIGN,8XTANS SIGN,aULA SIGN,7ILIQUA SIGN,6UNCIA SIGN,2OSTER
2SE,4TTE,2TATED CAPITAL Q,8FLORAL HEART BULLET,8HEAVY BLACK HEART BULLET
8LIGHT FOUR POINTED BLACK CUSP,8WHITE FOUR POINTED CUSP,2UND PUSHPIN,6TARGET,5ED SYMBOL FOR CAI,jFU
jLU,jSHOU,lUANGXI,jXI,2WBOAT,1S,1UBLE SIGN,2GBY FOOTBALL,2LE-DELAYED,2MI DIGIT EIGHT,bFIVE,cOUR
bNINE,bONE,bSEVEN,cIX,bTHREE,cWO,5FRACTION ONE HALF,iQUARTER,iTHIRD,eTWO THIRDS
5NUMBER EIGHT HUNDRED,hY,cFIFTY,eVE HUNDRED,dORTY,eUR HUNDRED,cNINE HUNDRED,gTY,cONE HUNDRED
cSEVEN HUNDRED,hTY,dIX HUNDRED,fTY,cTEN,dHIRTY,eREE HUNDRED,dWENTY,eO HUNDRED,2NIC ARLAUG SYMBOL
6BELGTHOR SYMBOL,6CROSS PUNCTUATION,6LETTER AC A,eESC,eLGIZ EOLHX,eNSUZ A,dBERKANAN BEORC BJARKAN B
dC,eALC,eEALC,fN,eWEORTH,dD,eAGAZ DAEG D,eOTTED-L,kN,kP,dE,eAR,eHWAZ EH E,eNG,eTH,dFEHU FEOH FE F
eRANKS CASKET AC,sESC,rEH,rIS,rOS,dG,eAR,eEBO GYFU G,fR,dHAEGL H,fGLAZ H,dICELANDIC-YR,eNG,gWAZ,eOR
eSAZ IS ISS I,eWAZ EOH,dJERAN J,dK,eAUN K,hA,dLAUKAZ LAGU LOGR L,eONG-BRANCH-AR AE,pHAGALL H,pMADR M
pOSS O,pYR,dMANNAZ MAN M,dNAUDIZ NYD NAUD N,dO,eE,eN,eO,ePEN-P,eS O,eTHALAN ETHEL O,dPERTHO PEORTH P
dQ,dRAIDO RAD REID R,dSH,fORT-TWIG-AR A,oBJARKAN B,oHAGALL H,oMADR M,oNAUD N,oOSS O,oSOL S,oTYR T
oYR,eIGEL LONG-BRANCH-SOL S,eOWILO S,eTAN,dTHURISAZ THURS THORN,eIWAZ TIR TYR T,dURUZ UR U,dV,dW
eUNJO WYNN W,dX,dY,eR,dZ,6MULTIPLE PUNCTUATION,6SINGLE PUNCTUATION,6TVIMADUR SYMBOL,3NER
4ING SHIRT WITH SASH,2PEE SIGN,2SSIAN ASTROLOGICAL SYMBOL BINOVILE,sNOVILE,sQUINTILE,sSENTAGON
sTREDECILE,sVIGINTILE,0S IN TRIANGLE,1AFETY PIN,7VEST,2GITTARIUS,2ILBOAT,2KE BOTTLE AND CUP
2LT SHAKER,4IRE,3UTING FACE,2MARITAN ABBREVIATION MARK,aLETTER ALAF,hBAA,iIT,hDALAT,hFI,hGAMAN,hIN
iT,iY,hKAAF,hLABAT,hMIM,hNUN,hQUF,hRISH,hSHAN,iINGAAT,hTAAF,iIT,iSAADIY,hYUT,hZEN,aMARK DAGESH
fEPENTHETIC YUT,fIN,h-ALAF,fNEQUDAA,fOCCLUSION,bODIFIER LETTER EPENTHETIC YUT,qI,qSHORT A
aPUNCTUATION AFSAAQ,nNGED,oNAAU,nRKAANU,nTMAAU,mBAU,mMELODIC QITSA,mNEQUDAA,mQITSA,mSHIYYAALAA
nOF MASHFAAT,mTURU,mZAEF,nIQAA,aVOWEL SIGN A,mA,lE,lI,lLONG A,rA,qE,qI,qU,lO,mVERLONG A,vA,lSHORT A
mUKUN,lU,2NDWICH,3S-SERIF HEAVY DOUBLE COMMA QUOTATION MARK ORNAMENT
oTURNED COMMA QUOTATION MARK ORNAMENT,hLOW DOUBLE COMMA QUOTATION MARK ORNAMENT
bINTERROBANG ORNAMENT,2RI,2TELLITE,9 ANTENNA,3URN,2URASHTRA CONSONANT SIGN HAARU,bDANDA,cIGIT EIGHT
hFIVE,iOUR,hNINE,hONE,hSEVEN,iIX,hTHREE,iWO,hZERO,cOUBLE DANDA,bLETTER A,jA,jI,jU,iBA,jHA,iCA,jHA
iDA,jDA,kHA,jHA,iE,jE,iGA,jHA,iHA,iI,jI,iJA,jHA,iKA,jHA,iLA,jLA,iMA,iNA,jGA,jNA,jYA,iO,jO,iPA,jHA
iRA,iSA,jHA,jSA,iTA,jHA,jTA,kHA,iU,jU,iVA,jOCALIC L,rL,qR,rR,iYA,bSIGN ANUSVARA,gCANDRABINDU,gVIRAMA
iSARGA,bVOWEL SIGN AA,nI,nU,mE,nE,mI,nI,mO,nO,mU,nU,mVOCALIC L,vL,uR,vR,4OPOD,2XOPHONE,1CALES,3RF
2HOOL,6 SATCHEL,2I,2OOTER,3RPION,6US,2REEN,4WDRIVER,3IPT CAPITAL B,fE,fF,fH,fI,fL,fM,fP,fR
7LIGATURE ET ORNAMENT,7SMALL E,dG,dL,dO,3OLL,3UPLE,1EAL,3T,2COND PLACE MEDAL,3TION SIGN,4OR,2DNA
2E-NO-EVIL MONKEY,3DLING,2GMENT,7ED DIGIT EIGHT,gFIVE,hOUR,gNINE,gONE,gSEVEN,hIX,gTHREE,hWO,gZERO
2LFIE,2MICOLON,4DIRECT PRODUCT WITH BOTTOM CLOSED,4SEXTILE,2PARATED SYMBOL
2RIOUS FACE WITH SYMBOLS COVERING MOUTH,3VICE MARK,2SAME DOT,3QUIQUADRATE,2T MINUS,4TRANSMIT STATE
2WING NEEDLE,2XTILE,1GC,1HADOWED WHITE CIRCLE,fLATIN CROSS,fSTAR,3LLOW PAN OF FOOD,3MROCK
3RADA ABBREVIATION SIGN,8CONTINUATION SIGN,8DANDA,9IGIT EIGHT,eFIVE,fOUR,eNINE,eONE,eSEVEN,fIX
eTHREE,fWO,eZERO,9OUBLE DANDA,8EKAM,9XTRA SHORT VOWEL MARK,8HEADSTROKE,8LETTER A,gA,gI,gU,fBA,gHA
fCA,gHA,fDA,gDA,hHA,gHA,fE,fGA,gHA,fHA,fI,gI,fJA,gHA,fKA,gHA,fLA,gLA,fMA,fNA,gGA,gNA,gYA,fO,fPA,gHA
fRA,fSA,gHA,gSA,fTA,gHA,gTA,hHA,fU,gU,fVA,gOCALIC L,oL,nR,oR,fYA,8OM,8SANDHI MARK,9ECTION MARK-1,l2
aPARATOR,9IGN ANUSVARA,eVAGRAHA,dCANDRABINDU,dINVERTED CANDRABINDU,dJIHVAMULIYA,dNUKTA,dSIDDHAM
dUPADHMANIYA,dVIRAMA,fSARGA,9UTRA MARK,8VOWEL MODIFIER MARK,eSIGN AA,kI,kU,jE,jI,kI,jO
jPRISHTHAMATRA E,jU,kU,jVOCALIC L,sL,rR,sR,4K,3VED ICE,4IAN LETTER ADO,gGE,gH,gIR,gRE,hRAY,gSH,gWE
fBIB,fCHURCH,fDEAD,fEAR,hT,gGG,gRR,fFEE,fGAG,fHA-HA,gUNG,fIAN,gCE,gF,fJUDGE,fKICK,fLOLL,fMEASURE
gIME,fNUN,fOAK,gIL,gN,gOZE,gR,gUT,fPEEP,fROAR,fSO,gURE,fTHEY,hIGH,gOT,fUP,fVOW,fWOE,hOL,fYEA,hW,fZOO
2EEP,2IELD,3FT IN,6OUT,3NTO SHRINE,3P,2OCKED FACE WITH EXPLODING HEAD,3OTING STAR,3PPING BAGS
9TROLLEY,3RT BACKSLANTED SOUTH ARROW,7ENT ARROW POINTING DOWNWARDS THEN NORTH EAST,6DOWN TACK
f WITH OVERBAR,6LEFT TACK,6RIGHTWARDS ARROW ABOVE LEFTWARDS ARROW,6SLANTED NORTH ARROW,6UP TACK
d ABOVE SHORT DOWN TACK,eWITH UNDERBAR,5CAKE,5HAND FORMAT CONTINUING OVERLAP,hDOWN STEP
hLETTER OVERLAP,hUP STEP,5S,3ULDERED OPEN BOX,3WER,2RIMP,3UG,2UFFLE PRODUCT,2Y,1I,2DDHAM DANDA
9OUBLE DANDA,8END OF TEXT MARK,8LETTER A,gA,gI,gLTERNATE U,gU,fBA,gHA,fCA,gHA,fDA,gDA,hHA,gHA,fE,fGA
gHA,fHA,fI,gI,fJA,gHA,fKA,gHA,fLA,fMA,fNA,gGA,gNA,gYA,fO,fPA,gHA,fRA,fSA,gHA,gSA,fTA,gHA
hREE-CIRCLE ALTERNATE I,gTA,hHA,gWO-CIRCLE ALTERNATE I,z II,fU,gU,fVA,gOCALIC L,oL,nR,oR,fYA
8REPETITION MARK-1,o2,o3,8SECTION MARK DOUBLE RING,w WITH RAYS,lWITH CIRCLES AND FOUR ENCLOSURES
zND RAYS,zND TWO ENCLOSURES,qDOUBLE CRESCENTS,qQUADRUPLE CRESCENTS,qRAYS AND DOTTED CRESCENTS
zDOTTED DOUBLE CRESCENTS,zDOTTED TRIPLE CRESCENTS,qSEPTUPLE CRESCENTS,qTRIDENT AND DOTTED CRESCENTS
zND U-SHAPED ORNAMENTS,tPLE CRESCENTS,aPARATOR BAR,iDOT,9IGN ANUSVARA,dCANDRABINDU,dNUKTA,dSIDDHAM
dVIRAMA,fSARGA,8VOWEL SIGN AA,kI,kLTERNATE U,uU,kU,jE,jI,kI,jO,jU,kU,jVOCALIC R,sR
3EWAYS BLACK DOWN POINTING INDEX,fLEFT POINTING INDEX,fRIGHT POINTING INDEX,fUP POINTING INDEX
9WHITE DOWN POINTING INDEX,fLEFT POINTING INDEX,fRIGHT POINTING INDEX,fUP POINTING INDEX
2GN OF THE HORNS,4WRITING AIR BLOW SMALL ROTATIONS,kING OUT,gSUCK SMALL ROTATIONS,kING IN
cBREATH EXHALE,jINHALE,eUSH BETWEEN,iMULTIPLE,iSINGLE,cCHEEKS NEUTRAL,jPUFFED,jSUCKED,dOLON,eMMA
cDREAMY EYEBROWS DOWN NEUTRAL,sNEUTRAL DOWN,z UP,sUP NEUTRAL,dYNAMIC ARROWHEAD LARGE,uSMALL
kEVERY OTHER TIME,kFAST,kGRADUAL,kRELAXED,kSIMULTANEOUS,w ALTERNATING,lLOW,kTENSE,cEARS,dXCITEMENT
dYE BLINK MULTIPLE,mSINGLE,gWINK,fBROWS STRAIGHT DOWN,uNEUTRAL,uUP,fGAZE-FLOORPLANE CURVED,vSTRAIGHT
zIGHT ALTERNATING,zIGHT DOUBLE,kWALLPLANE CIRCLING,vURVED,uSTRAIGHT,zGHT ALTERNATING,zGHT DOUBLE
fLASHES DOWN,mFLUTTERING,mUP,fS CLOSED,hHALF CLOSED,mOPEN,hOPEN,hSQUEEZED,hWIDE OPEN,lNING MOVEMENT
cFACE DIRECTION POSITION NOSE FORWARD TILTING,z NOSE UP OR DOWN,z NOSE UP OR DOWN TILTING
dILL MODIFIER-2,q3,q4,q5,q6,eNGER,dLICK LARGE MULTIPLE,oSINGLE,iSEQUENTIAL,jMALL MULTIPLE,oSINGLE
eOORPLANE SHOULDER HIP MOVE,dOREHEAD CONTACT,lNEUTRAL,lWRINKLED,dULL STOP,cGRASP BETWEEN,iMULTIPLE
iSINGLE,cHAIR,eND-ANGLE,m INDEX,s MIDDLE LITTLE,z RING,tRING LITTLE,zITTLE OUT,tTHUMB,y IN,zOUT
nLITTLE INDEX,z THUMB INDEX THUMB,z THUMB INDEX THUMB OUT,uUP,nMIDDLE RING LITTLE,zLITTLE IN
zLITTLE OUT,nRING DOWN MIDDLE THUMB INDEX CROSS,sLITTLE,hCIRCLE,n INDEX,t BENT,uHINGE,uMIDDLE
zE CROSS LITTLE,zE CROSSED,zE LITTLE,zE RING,zE THUMB,uRING LITTLE,oLITTLE INDEX,vUP
oMIDDLE RING LITTLE,z LITTLE BENT,vUP,oRING LITTLE,iLAW,l FOUR FINGERS CONJOINED
mINDEX THUMB CURVE THUMB INSIDE,mMIDDLE RING LITTLE CONJOINED,zITTLE CONJOINED SIDE,mNO THUMB
mTHUMB FORWARD,sSIDE,iUP,k FIVE FINGERS SPREAD,zPREAD OPEN,lINDEX,q RING LITTLE,rTHUMB,w OPEN
lMIDDLE RING LITTLE,lNO THUMB,lOPEN,p NO THUMB,qTHUMB FORWARD,wSIDE,lTHUMB FORWARD,rSIDE,jRLICUE
p INDEX RING LITTLE ON,qMIDDLE RING LITTLE ON,qOPEN,hFIST,l FOUR FINGERS CONJOINED BENT,mHEEL,mINDEX
r BENT,w OVER MIDDLE,sCUPPED,sHINGED,y LOW,zMIDDLE UP,zMIDDLE UP THUMB SIDE,sMIDDLE,y BENT
zBENT THUMB STRAIGHT,zCONJOINED,zCONJOINED CUPPED,zCONJOINED CUPPED THUMB FORWARD,zCONJOINED HINGED
zCONJOINED HINGED THUMB SIDE,zCONJOINED INDEX BENT,zCONJOINED MIDDLE BENT,zCONJOINED THUMB FORWARD
zCONJOINED THUMB SIDE,zCONJOINED THUMB SIDE BENT,zCONJOINED THUMB SIDE CONJOINED,zCROSS LITTLE
zCROSSED,zCROSSED THUMB SIDE,zHINGED,zHINGED SPREAD THUMB SIDE,zLITTLE,zRAISED KNUCKLES,zRING
zRING BENT,zRING CONJOINED,zSTRAIGHT THUMB BENT,zTHUMB,zTHUMB ANGLED,zTHUMB ANGLED OUT,zTHUMB BENT
zTHUMB CIRCLED,zTHUMB CONJOINED HINGED,zTHUMB CUPPED,zTHUMB HINGED,zTHUMB HOOKED
zUP SPREAD THUMB FORWARD,sRAISED KNUCKLE,tING LITTLE,sTHUMB ANGLED IN MIDDLE UP,zNGLED OUT MIDDLE UP
yCIRCLE,zIRCLED MIDDLE UP,zUPPED MIDDLE UP,zURLICUE,zURVE THUMB INSIDE,zURVE THUMB UNDER
yFORWARD INDEX BENT,zORWARD INDEX STRAIGHT,yHOOK,zOOKED MIDDLE HINGED,zOOKED MIDDLE UP,ySIDE
zIDE BOTH BENT,zIDE INDEX BENT,zIDE INDEX HINGE,zIDE THUMB BENT,zIDE THUMB CONJOINED
zIDE THUMB DIAGONAL,sUP MIDDLE HINGED,zLE HINGED THUMB CONJOINED,zLE HINGED THUMB SIDE,mLITTLE BENT
tDOWN,x OTHERS CIRCLED,yRIPPLE CURVED,zIPPLE STRAIGHT,tINDEX,y THUMB,tRAISED KNUCKLE,tTHUMB
uOUCHES THUMB,tUP,mMIDDLE BENT OVER INDEX,tDOWN,tLITTLE,tRAISED KNUCKLE,uING LITTLE
tTHUMB ANGLED INDEX UP,zANGLED OUT INDEX CROSSED,zANGLED OUT INDEX UP,zCIRCLED INDEX HINGED
zCIRCLED INDEX UP,zCUPPED INDEX UP,zHOOKED INDEX UP,zLITTLE,tUP,v THUMB SIDE,mRING DOWN,rINDEX
rLITTLE,rMIDDLE,x CONJOINED,yRAISED KNUCKLES,rRAISED KNUCKLE,rTHUMB,rUP,mTHUMB
r BETWEEN INDEX MIDDLE,z INDEX MIDDLE STRAIGHT,z MIDDLE RING,z RING LITTLE,sFORWARD,sHEEL
sOVER FOUR RAISED KNUCKLES,xTWO FINGERS,sSIDE BENT,xCONJOINED,xDIAGONAL,sUNDER FOUR FINGERS
yINDEX BENT,yLITTLE UP,yTHREE FINGERS,zWO FINGERS,iLAT,l BETWEEN PALM FACINGS,mFIVE FINGERS SPREAD
zSPREAD BENT,zSPREAD FOUR BENT,zSPREAD HINGED,zSPREAD HINGED NO THUMB,zSPREAD HINGED THUMB SIDE
zSPREAD THUMB FORWARD,nOUR FINGERS,y BENT,zCONJOINED,zCONJOINED SPLIT,zHINGED,mHEEL
q FIVE FINGERS SPREAD,zGERS SPREAD BENT,zGERS SPREAD FOUR BENT,rTHUMB SIDE,mSPLIT CENTRE
y THUMB SIDE,zTHUMB SIDE BENT,sINDEX THUMB SIDE,sLITTLE,mTHUMB BENT,sFORWARD,sSIDE,hHINGE
m FIVE FINGERS SPREAD OPEN,oOUR FINGERS CONJOINED,nINDEX,s HINGED,tMIDDLE LITTLE,z RING
z RING CONJOINED,tRING LITTLE,tTHUMB,y LARGE,zOPEN,zSIDE,zSMALL,nLITTLE,t INDEX,z THUMB,uTHUMB
nMIDDLE,t RING LITTLE,nNO THUMB,nOPEN,r NO THUMB,sTHUMB FORWARD,ySIDE,nRING
r DOWN INDEX THUMB HOOK MIDDLE,nSMALL,nTHUMB BETWEEN MIDDLE RING,tSIDE,x TOUCHING INDEX,iOOK
l CURLICUE,mINDEX RING LITTLE IN,zTTLE OUT,zTTLE UNDER,mMIDDLE RING LITTLE CONJOINED
zITTLE CONJOINED IN,zITTLE CONJOINED OUT,tTHUMB,mRING THUMB,hOVAL,l FIVE FINGERS SPREAD,mINDEX
mLITTLE UP,mNO THUMB,mRING LITTLE,mTHUMB FORWARD,sSIDE,dEAD,g MOVEMENT CIRCLE,p-FLOORPLANE CURVE
zE STRAIGHT,qWALLPLANE CURVE,z STRAIGHT,z TILT,hRIM,cLIMB COMBINATION,hLENGTH-1,o2,o3,o4,o5,o6,o7
eP LOWER OVER UPPER,gUPPER OVER LOWER,fS PRESSED TOGETHER,dOCATION DEPTH,lHEAD NECK,nIGHT
lLIMBS DIGITS,lTORSO,lWIDTH,k-FLOORPLANE SPACE,lWALLPLANE SPACE,cMOUTH CLOSED CONTACT,pFORWARD
pNEUTRAL,jORNERS,iFROWN,n OPEN,oWRINKLED,iKISS,m FORWARD,nWRINKLED,iOPEN CIRCLE,nFORWARD,nOVAL
r WRINKLED,sYAWN,nRECTANGLE,w WRINKLED,xYAWN,nWRINKLED,iSMILE,n OPEN,oWRINKLED,iTENSE,n FORWARD
oSUCKED,iWRINKLES DOUBLE,rSINGLE,eVEMENT-DIAGONAL AWAY LARGE,zLARGEST,zMEDIUM,zSMALL
uBETWEEN AWAY LARGE,zEN AWAY LARGEST,zEN AWAY MEDIUM,zEN AWAY SMALL,zEN TOWARDS LARGE
zEN TOWARDS LARGEST,zEN TOWARDS MEDIUM,zEN TOWARDS SMALL,uTOWARDS LARGE,zDS LARGEST,zDS MEDIUM
zDS SMALL,lFLOORPLANE ARM CIRCLE HITTING WALL LARGE DOUBLE,z CIRCLE HITTING WALL LARGE SINGLE
z CIRCLE HITTING WALL MEDIUM DOUBLE,z CIRCLE HITTING WALL MEDIUM SINGLE
z CIRCLE HITTING WALL SMALL DOUBLE,z CIRCLE HITTING WALL SMALL SINGLE,wBEND,xOX LARGE,z MEDIUM
z SMALL,wCHECK,xORNER LARGE,zNER MEDIUM,zNER SMALL,xROSS,xURVE COMBINED,zVE HITTING CEILING LARGE
zVE HITTING CEILING SMALL,zVE HITTING FLOOR LARGE,zVE HITTING FLOOR SMALL,zVE LARGE,zVE LARGEST
zVE MEDIUM,zVE SMALL,wDOUBLE ALTERNATING,zBLE ALTERNATING WRIST FLEX,zBLE STRAIGHT,zBLE WRIST FLEX
wFINGER CIRCLES HITTING WALL DOUBLE,zGER CIRCLES HITTING WALL SINGLE,zGER CONTACT
wHUMP HITTING CEILING LARGE DOUBLE,zP HITTING CEILING LARGE TRIPLE,zP HITTING CEILING SMALL DOUBLE
zP HITTING CEILING SMALL TRIPLE,zP HITTING FLOOR LARGE DOUBLE,zP HITTING FLOOR SMALL DOUBLE
zP HITTING FLOOR TRIPLE LARGE TRIPLE,zP HITTING FLOOR TRIPLE SMALL TRIPLE,zP SMALL,wJAW
wLOOP HITTING CEILING LARGE DOUBLE,zP HITTING CEILING LARGE SINGLE,zP HITTING CEILING SMALL DOUBLE
zP HITTING CEILING SMALL SINGLE,zP HITTING FLOOR LARGE DOUBLE,zP HITTING FLOOR LARGE SINGLE
zP HITTING FLOOR SMALL DOUBLE,zP HITTING FLOOR SMALL SINGLE,zP SMALL,wPEAKS LARGE,zKS MEDIUM
zKS SMALL,wSHAKING PARALLEL,xINGLE STRAIGHT LARGE,zGLE STRAIGHT LARGEST,zGLE STRAIGHT MEDIUM
zGLE STRAIGHT SMALL,zGLE WRIST FLEX,wTRIPLE ALTERNATING MOVEMENT,zPLE ALTERNATING WRIST FLEX
zPLE STRAIGHT MOVEMENT,zPLE WRIST FLEX,wWAVE HITTING CEILING LARGE,zE HITTING CEILING SMALL
zE HITTING FLOOR LARGE,zE HITTING FLOOR SMALL,zE LARGE,zE SMALL,zE SNAKE
xRIST CIRCLE HITTING WALL DOUBLE,zST CIRCLE HITTING WALL SINGLE,wZIGZAG LARGE,zZAG MEDIUM,zZAG SMALL
lHINGE DOWN SEQUENTIAL,rSIDE TO SIDE SCISSORS,rUP DOWN ALTERNATING LARGE,zALTERNATING SMALL,zLARGE
zSMALL,uSEQUENTIAL,lWALLPLANE ARM CIRCLE MEDIUM DOUBLE,zCIRCLE MEDIUM SINGLE,zCIRCLE SMALL DOUBLE
zCIRCLE SMALL SINGLE,vBEND LARGE,z MEDIUM,z SMALL,wOX LARGE,zMEDIUM,zSMALL,vCHECK LARGE,zK MEDIUM
zK SMALL,wORNER LARGE,zER MEDIUM,zER ROTATION,zER SMALL,wROSS,wURVE HALF-CIRCLE LARGE
zE HALF-CIRCLE LARGEST,zE HALF-CIRCLE MEDIUM,zE HALF-CIRCLE SMALL,zE HITTING CHEST
zE HITTING FRONT WALL,zE QUARTER LARGE,zE QUARTER LARGEST,zE QUARTER MEDIUM,zE QUARTER SMALL
zE THEN STRAIGHT,zE THREE-QUARTER CIRCLE MEDIUM,zE THREE-QUARTER CIRCLE SMALL,zED CROSS MEDIUM
zED CROSS SMALL,vDOUBLE ALTERNATING,zLE ALTERNATING WRIST FLEX,zLE STRAIGHT,zLE WRIST FLEX
vFINGER CIRCLES DOUBLE,zER CIRCLES SINGLE,zER CONTACT,vHUMP HITTING CHEST,z HITTING FRONT WALL
z LARGE,z MEDIUM,z SMALL,vJAW,vLOOP HITTING CHEST,z HITTING FRONT WALL,z LARGE,z MEDIUM,z SMALL
z SMALL DOUBLE,vPEAKS LARGE,zS MEDIUM,zS SMALL,vSHAKING,wINGLE STRAIGHT LARGE,zLE STRAIGHT LARGEST
zLE STRAIGHT MEDIUM,zLE STRAIGHT SMALL,zLE WRIST FLEX,vTRIPLE ALTERNATING,zLE ALTERNATING WRIST FLEX
zLE STRAIGHT MOVEMENT,zLE WRIST FLEX,vWAVE CURVE DOUBLE LARGE,z CURVE DOUBLE MEDIUM
z CURVE DOUBLE SMALL,z CURVE TRIPLE LARGE,z CURVE TRIPLE MEDIUM,z CURVE TRIPLE SMALL
z DIAGONAL PATH LARGE,z DIAGONAL PATH MEDIUM,z DIAGONAL PATH SMALL,z HITTING CHEST
z HITTING FRONT WALL,wRIST CIRCLE FRONT DOUBLE,zT CIRCLE FRONT SINGLE,vZIGZAG LARGE,zAG MEDIUM
zAG SMALL,cNECK,dOSE CONTACT,hNEUTRAL,hWIGGLES,iRINKLES,cPARENTHESIS,cROTATION MODIFIER-10,v1,v2,v3
v4,v5,v6,u2,u3,u4,u5,u6,u7,u8,u9,k-FLOORPLANE ALTERNATING,zERNATING HITTING CEILING
zERNATING HITTING FLOOR,wDOUBLE,zBLE HITTING CEILING,zBLE HITTING FLOOR,wSINGLE,zGLE HITTING CEILING
zGLE HITTING FLOOR,lWALLPLANE ALTERNATE,zRNATING HITTING CHEST,zRNATING HITTING FRONT WALL,vDOUBLE
zLE HITTING CHEST,zLE HITTING FRONT WALL,vSINGLE,zLE HITTING CHEST,zLE HITTING FRONT WALL
dUB BETWEEN,gMULTIPLE,gSINGLE,cSEMICOLON,dHOULDER HIP POSITIONS,pSPINE,lTILTING FROM WAIST
dQUEEZE FLICK ALTERNATING,kLARGE MULTIPLE,qSINGLE,kSEQUENTIAL,lMALL MULTIPLE,qSINGLE,dTRIKE BETWEEN
jMULTIPLE,jSINGLE,dURFACE BETWEEN,kSYMBOLS,cTEETH,h BITE LIPS,iMOVEMENT,iON LIPS,p MOVEMENT,lTONGUE
r MOVEMENT,eNSE CHEEKS HIGH,pLOW,pMIDDLE,dONGUE CENTRE INSIDE MOUTH,qSTICKING OUT
jINSIDE MOUTH RELAXED,jLICKING LIPS,jMOVES AGAINST CHEEK,jSTICKING OUT FAR,jTIP BETWEEN LIPS
nTOUCHING INSIDE MOUTH,eRSO-FLOORPLANE TWISTING,iWALLPLANE CURVED BEND,sSTRAIGHT STRETCH
eUCH BETWEEN,iMULTIPLE,iSINGLE,dRAVEL-FLOORPLANE ROTATION-FLOORPLANE ALTERNATING
zION-FLOORPLANE DOUBLE,zION-FLOORPLANE SINGLE,zION-WALLPLANE ALTERNATING,zION-WALLPLANE DOUBLE
zION-WALLPLANE SINGLE,uSHAKING,jWALLPLANE ARM SPIRAL DOUBLE,zIRAL SINGLE,zIRAL TRIPLE
tROTATION-FLOORPLANE ALTERNATING,zON-FLOORPLANE DOUBLE,zON-FLOORPLANE SINGLE
zON-WALLPLANE ALTERNATING,zON-WALLPLANE DOUBLE,zON-WALLPLANE SINGLE,tSHAKING
cUPPER BODY TILTING FROM HIP JOINTS,cWALLPLANE SHOULDER HIP MOVE,2LHOUETTE OF JAPAN
2MILAR ABOVE GREATER-THAN ABOVE EQUALS SIGN,eLESS-THAN ABOVE EQUALS SIGN,8MINUS SIMILAR
8OR GREATER-THAN,bLESS-THAN,2NE WAVE,3GLE CHARACTER INTRODUCER,7GRAPHIC CHARACTER INTRODUCER
7HIGH-REVERSED-9 QUOTATION MARK,7LEFT-POINTING ANGLE QUOTATION MARK,8OW-9 QUOTATION MARK
7RIGHT-POINTING ANGLE QUOTATION MARK,7SHIFT THREE,eWO,6-SHIFT-2,d3,3HALA ARCHAIC DIGIT EIGHT,mFIVE
nOUR,mNINE,mONE,mSEVEN,nIX,mTHREE,nWO,gNUMBER EIGHTY,nFIFTY,oORTY,nNINETY,nONE HUNDRED,rTHOUSAND
nSEVENTY,oIXTY,nTEN,oHIRTY,oWENTY,8LETTER AAYANNA,gEEYANNA,hYANNA,gIYANNA,gLPAPRAANA BAYANNA
qCAYANNA,qDAYANNA,rDAYANNA,qGAYANNA,qJAYANNA,qKAYANNA,qPAYANNA,qTAYANNA,rTAYANNA,gMBA BAYANNA
gUYANNA,gYANNA,fDANTAJA LAYANNA,nNAYANNA,nSAYANNA,fEEYANNA,gYANNA,fFAYANNA,fHAYANNA,fIIYANNA
gLUUYANNA,iYANNA,gRUUYANNA,iYANNA,gYANNA,fKANTAJA NAASIKYAYA,fMAHAAPRAANA BAYANNA,rCAYANNA,rDAYANNA
sDAYANNA,rGAYANNA,rJAYANNA,rKAYANNA,rPAYANNA,rTAYANNA,sTAYANNA,hYANNA,gUURDHAJA LAYANNA,pNAYANNA
pSAYANNA,fOOYANNA,gYANNA,fRAYANNA,fSANYAKA DAYANNA,oDAYANNA,nGAYANNA,nJAYANNA,fTAALUJA NAASIKYAYA
nSANYOOGA NAAKSIKYAYA,pYANNA,fUUYANNA,gYANNA,fVAYANNA,fYAYANNA,9ITH DIGIT EIGHT,jFIVE,kOUR,jNINE
jONE,jSEVEN,kIX,jTHREE,kWO,jZERO,8PUNCTUATION KUNDDALIYA,8SIGN AL-LAKUNA,eNUSVARAYA,dCANDRABINDU
dVISARGAYA,8VOWEL SIGN AELA-PILLA,jDIGA AEDA-PILLA,oGAETTA-PILLA,qYANUKITTA,oIS-PILLA,oKOMBUVA
oPAA-PILLA,jGAETTA-PILLA,lYANUKITTA,jKETTI AEDA-PILLA,pIS-PILLA,pPAA-PILLA,kOMBU DEKA,oVA
q HAA AELA-PILLA,vDIGA AELA-PILLA,vGAYANUKITTA,2X PETALLED BLACK AND WHITE FLORETTE
5OINTED BLACK STAR,cPINWHEEL STAR,cSTAR WITH MIDDLE DOT,3-PER-EM SPACE,3TEEN POINTED ASTERISK
1KATEBOARD,2I AND SKI BOOT,3ER,2ULL,5 AND CROSSBONES,3NK,1LANTED EQUAL TO OR GREATER-THAN
w WITH DOT INSIDE,kLESS-THAN,t WITH DOT INSIDE,8NORTH ARROW WITH HOOKED HEAD,rRIZONTAL TAIL
3VONIC ASTERISK,2ED,3EPING ACCOMMODATION,9FACE,9SYMBOL,5Y FACE,3UTH OR SPY,2ICE OF PIZZA
3GHTLY FROWNING FACE,9SMILING FACE,2OPE,4ING LARGE AND,eOR,3T MACHINE,4H,1MALL AIRPLANE,7MPERSAND
7STERISK,6BLUE DIAMOND,6COLON,8MMA,aERCIAL AT,8NTAINS AS MEMBER,fWITH OVERBAR
kVERTICAL BAR AT END OF HORIZONTAL STROKE,6DOLLAR SIGN,6ELEMENT OF,g WITH OVERBAR
mVERTICAL BAR AT END OF HORIZONTAL STROKE,7M DASH,7QUALS SIGN,7XCLAMATION MARK,6FULL STOP
6GREATER-THAN SIGN,6HYPHEN-MINUS,6IDEOGRAPHIC COMMA,6LEFT CURLY BRACKET,bPARENTHESIS
bTORTOISE SHELL BRACKET,8SS-THAN SIGN,6NUMBER SIGN,6ORANGE DIAMOND,6PERCENT SIGN,7LUS SIGN
6QUESTION MARK,6REVERSE SOLIDUS,7IGHT CURLY BRACKET,cPARENTHESIS,cTORTOISE SHELL BRACKET
7OMAN NUMERAL EIGHT,lLEVEN,kFIFTY,mVE,o HUNDRED,lOUR,kNINE,kONE,n HUNDRED,oTHOUSAND,kSEVEN,lIX,kTEN
lHREE,lWELVE,mO,6SEMICOLON,6TILDE,7WO DOTS OVER ONE DOT PUNCTUATION,6VEE WITH UNDERBAR,5ER THAN
c OR EQUAL TO,3SH PRODUCT,2ILE,4ING CAT FACE WITH HEART-SHAPED EYES,mOPEN MOUTH,8FACE WITH HALO
jEART-SHAPED EYES,jORNS,iOPEN MOUTH,s AND COLD SWEAT,xSMILING EYES,xTIGHTLY-CLOSED EYES
iSMILING EYES,u AND HAND COVERING MOUTH,zTHREE HEARTS,jUNGLASSES,iTEAR,3RKING FACE,2OKING SYMBOL
1NAIL,3KE,2EEZING FACE,2OW CAPPED MOUNTAIN,4BOARDER,4FLAKE,4MAN,7 WITHOUT SNOW,1O,2CCER BALL,3KS
2FT HYPHEN,5ICE CREAM,5SHELL FLOPPY DISK,4BALL,4WARE-FUNCTION SYMBOL,2GDIAN COMBINING CURVE ABOVE
oBELOW,iDOT ABOVE,mBELOW,iHOOK ABOVE,nBELOW,iLONG HOOK BELOW,iRESH BELOW,iSTROKE BELOW
iTWO DOTS ABOVE,rBELOW,8INDEPENDENT SHIN,8LETTER ALEPH,gYIN,fBETH,fFETH,fGIMEL,fHE,hTH,fKAPH,fLAMEDH
gESH,fMEM,fNUN,fPE,fRESH-AYIN,fSADHE,hMEKH,gHIN,fTAW,fWAW,fYODH,fZAYIN,8NUMBER ONE,i HUNDRED,fTEN
gWENTY,8PUNCTUATION CIRCLE WITH DOT,kHALF CIRCLE WITH DOT,kTWO CIRCLES WITH DOTS,oVERTICAL BARS
zRS WITH DOTS,2H,2LID QUILT SQUARE ORNAMENT,r IN BLACK SQUARE,5US,7 WITH OVERBAR,2M SIGN
2ON WITH RIGHTWARDS ARROW ABOVE,2RA SOMPENG DIGIT EIGHT,jFIVE,kOUR,jNINE,jONE,jSEVEN,kIX,jTHREE,kWO
jZERO,dLETTER AH,kBAH,kCAH,kDAH,kEEH,lH,kGAH,kHAH,kIH,kJAH,kKAH,kLAH,kMAE,mH,kNAH,lGAH,lYAH,kOH,kPAH
kRAH,kSAH,kTAH,kUH,kVAH,kYAH,2S,2UND RECORDING COPYRIGHT,3TH EAST ARROW,g AND SOUTH WEST ARROW
hCROSSING NORTH EAST ARROW,hTO CORNER,hWITH HOOK,bBLACK ARROW,bDOUBLE ARROW,bPOINTING BUD,kLEAF
kVINE LEAF,bSANS-SERIF ARROW,bTRIANGLE-HEADED ARROW,w TO BAR,bWHITE ARROW,6WEST ARROW
g AND NORTH WEST ARROW,hWITH HOOK,bBLACK ARROW,bDOUBLE ARROW,bPOINTING BUD,kLEAF,kVINE LEAF
bSANS-SERIF ARROW,bTRIANGLE-HEADED ARROW,w TO BAR,bWHITE ARROW,2YOMBO CLUSTER-INITIAL LETTER LA,vRA
vSA,wHA,8FINAL CONSONANT SIGN -A,tB,tD,tG,tK,tL,tM,tN,uG,tR,tS,uH,8GEMINATION MARK
8HEAD MARK WITH MOON AND SUN,z AND FLAME,z AND TRIPLE FLAME,8LETTER -A,fA,fBA,gHA,fCA,gHA,fDA,gDA
hHA,gHA,gZA,fGA,gHA,fHA,fJA,gHA,fKA,gHA,gSSA,fLA,fMA,fNA,gGA,gNA,gYA,fPA,gHA,fRA,fSA,gHA,gSA,fTA,gHA
gSA,hHA,gTA,hHA,fVA,fYA,fZA,gHA,8MARK DOUBLE SHAD,dPLUTA,dSHAD,dTSHEG,8SIGN ANUSVARA,dJIHVAMULIYA
dUPADHMANIYA,dVISARGA,9UBJOINER,8TERMINAL MARK-1,m2,8VOWEL LENGTH MARK,eSIGN AI,kU,jE,jI,jO,kE,jU,kE
jVOCALIC L,rR,1P,2A,3CE,3GHETTI,3RKLE,7S,6ING HEART,2EAK-NO-EVIL MONKEY,5ER
7 WITH CANCELLATION STROKE,dONE SOUND WAVE,dTHREE SOUND WAVES,5ING HEAD IN SILHOUETTE,3ECH BALLOON
4DBOAT,3SMILO SIGN,2HERICAL ANGLE,f OPENING LEFT,oUP,2IDER,6 WEB,3RAL CALENDAR PAD,7NOTE PAD,7SHELL
2LASHING SWEAT SYMBOL,2ONGE,3OL OF THREAD,4N,3RTS MEDAL,3UTING WHALE,1QUARE A OVER M,8ARU,8M,8NPEA
8PAATO,8RUHUA,8U,7BAARERU,9R,8EETA,8IRU,8ORUTO,8Q,8USSYERU,7C OVER KG,8AL,9P,8C,8D,8M,9 CUBED
aSQUARED,8O,9RPORATION,8UP,7DA,9ASU,8B,8ESI,8J,8L,8M,9 CUBED,aSQUARED,8ORU,7EEKAA,8RA NAME HEISEI
gMEIZI,gREIWA,gSYOUWA,gTAISYOU,9G,8SUKUUDO,8V,7FM,8OOT,9UR CORNERS,7GAL,9NMA,9RON,8B,8HZ,8IGA,9NII
9RUDAA,8PA,8URAMU,dTON,8Y,7HA,9ITU,8EKUTAARU,9RUTU,8G,8IRAGANA HOKA,8ON,9ON,aRU,8P,9A,8UARADDO,9IITO
9RAN,8Z,7IMAGE OF,f OR EQUAL TO,jNOT EQUAL TO,8N,9INGU,9TI,8U,7K OHM,8A,9IRI,9RATTO,aORII,8B,8CAL
8EESU,8G,8HZ,8IRO,bGURAMU,bMEETORU,bWATTO,8K,8L,8M,9 CAPITAL,bUBED,aSQUARED,8OOPO,9RUNA,8PA,8T
8UROONE,aUZEIRO,8V,8W,8YURII,7LEFT OPEN BOX OPERATOR,8M,8N,8OG,9ZENGE,8X,7M CUBED,9OHM,aVER S
f SQUARED,9SQUARED,8A,9HHA,9IKURO,aRU,9NSYON,9RUKU,8B,9 SMALL,8EETORU,9GA,bTON,8G,8HZ,8IKURON,9L,9RI
bBAARU,8L,8M,9 CUBED,aSQUARED,8OL,8PA,8S,8U A,aF,aG,aL,aM,aS,aV,aW,8V,9 MEGA,8W,9 MEGA,7NA,9NO,8F,8M
8OTTO,8S,8V,8W,7ONSU,8OMU,8RIGINAL OF,i OR EQUAL TO,mNOT EQUAL TO,8V,7PA,9 AMPS,9ASENTO,aTU,8C,8EEZI
9NIHI,aSU,9SO,8F,8H,8IASUTORU,9KO,aURU,8M,8OINTO,9NDO,9SITION INDICATOR,8PM,8R,8S,8V,8W,7RAD
a OVER S,h SQUARED,8EMU,9NTOGEN,8IGHT OPEN BOX OPERATOR,9RA,9TTORU,8OOT,8UPII,9UBURU,7SAIKURU
9NTIIMU,8ENTI,bO,8IRINGU,8R,8V,7TARGET,8HZ,8ON,7UON,7V OVER M,7WATTO,8B,8ITH BOTTOM HALF BLACK
cCONTOURED OUTLINE,cDIAGONAL CROSSHATCH FILL,cHORIZONTAL FILL,cLEFT HALF BLACK
dOWER LEFT DIAGONAL HALF BLACK,iRIGHT DIAGONAL HALF BLACK,cORTHOGONAL CROSSHATCH FILL
cRIGHT HALF BLACK,cTOP HALF BLACK,cUPPER LEFT DIAGONAL HALF BLACK,nTO LOWER RIGHT FILL
iRIGHT DIAGONAL HALF BLACK,oTO LOWER LEFT FILL,cVERTICAL FILL,7YAADO,aRU,8UAN,6D ASTERISK
8CJK UNIFIED IDEOGRAPH-4E00,x9,w2D,w8C,wA4,u518D,v21D,w4D,w72,v3CC,wF3,v408,w39,v5B6,v8F0,v91A,w29
vB57,vDE6,vF8C,u624B,w53,w95,v307,w55,v599,wB0,v620,v708,x9,vE80,vF14,u7121,v51F,w33,v981,vA7A,vD42
u89E3,vCA9,vD70,u904A,v14D,9L,9OOL,8DOT OPERATOR,8EIGHT K,8FALLING DIAGONAL SLASH,9IVE POINT ONE
9OUR DOT PUNCTUATION,dK,9REE,8HC,9DR,9I-RES,9V,8ID,8KATAKANA DE,hKOKO,hSA,9EY
8LATIN CAPITAL LETTER A,tB,tC,tD,tE,tF,tG,tH,tI,tJ,tK,tL,tM,tN,tO,tP,tQ,tR,tS,tT,tU,tV,tW,tX,tY,tZ
eSMALL LETTER D,9OGICAL AND,gOR,aSSLESS,8MINUS,9V,8NEW,9G,8OK,9NE HUNDRED TWENTY P,8PLUS,9PV
8RISING DIAGONAL SLASH,8SALTIRE,9D,9ECOND SCREEN,aVEN POINT ONE,9HV,9IXTY P,9MALL CIRCLE,9OS,9QUARE
9S,8THREE D,9IMES,9WENTY-TWO POINT TWO,aO K,8UHD,9P WITH EXCLAMATION MARK,8VOD,9S,8WC
4T BLACK RIGHTWARDS ARROW,3ID,1S2,23,2A,1T,2ADIUM,3FF OF AESCULAPIUS,9HERMES,3MPED ENVELOPE
3NDING PERSON,3R AND CRESCENT,5EQUALS,5OF DAVID,6PERATOR,5WITH LEFT HALF BLACK,aRIGHT HALF BLACK
4T OF GUARDED AREA,9HEADING,9PROTECTED AREA,9SELECTED AREA,aTRING,9TEXT,3TION,4UE OF LIBERTY
2EAM LOCOMOTIVE,5ING BOWL,3NOGRAPHIC FULL STOP,3THOSCOPE,2ICK FIGURE,c LEANING LEFT,lRIGHT
dWITH ARMS RAISED,iDRESS,2OCK CHART,3PWATCH,2RAIGHT RULER,8NESS,4WBERRY,3ESS OUTLINED WHITE STAR
3ICTLY EQUIVALENT TO,4NG TERMINATOR,2S,2UDIO MICROPHONE,3FFED FLATBREAD,3PA,2X,1UB,3SCRIPT EIGHT
bQUALS SIGN,aFIVE,bOUR,aLEFT PARENTHESIS,aMINUS,aNINE,aONE,aPLUS SIGN,aRIGHT PARENTHESIS,aSEVEN,bIX
aTHREE,bWO,aZERO,4ET ABOVE RIGHTWARDS ARROW,dSUBSET,fPERSET,7OF,9 ABOVE ALMOST EQUAL TO,gEQUALS SIGN
gNOT EQUAL TO,gTILDE OPERATOR,aOR EQUAL TO,l WITH DOT ABOVE,aWITH NOT EQUAL TO,7WITH DOT
cMULTIPLICATION SIGN BELOW,cPLUS SIGN BELOW,4TITUTE,2CCEEDS,8 ABOVE ALMOST EQUAL TO,fEQUALS SIGN
fNOT ALMOST EQUAL TO,jEQUAL TO,fSINGLE-LINE EQUALS SIGN,rNOT EQUAL TO,9BUT NOT EQUIVALENT TO
9OR EQUAL TO,fIVALENT TO,9UNDER RELATION,2MMATION BOTTOM,aTOP,aWITH INTEGRAL,2N,3 BEHIND CLOUD
4WITH FACE,3DANESE AVAGRAHA,aCONSONANT SIGN PAMINGKAL,rNYAKRA,tIKU,rSANGAN MA,yWA,aDIGIT EIGHT,gFIVE
hOUR,gNINE,gONE,gSEVEN,hIX,gTHREE,hWO,gZERO,aLETTER A,iE,hBA,iHA,hCA,hDA,hE,iU,hFA,iINAL K,nM,hGA
hHA,hI,hJA,hKA,iHA,hLA,iEU,hMA,hNA,iGA,iYA,hO,hPA,hQA,hRA,iEU,hSA,iYA,hTA,hU,hVA,hWA,hXA,hYA,hZA
aPUNCTUATION BINDU BA SATANGA,sCAKRA,sDA SATANGA,sKA SATANGA,sLEU SATANGA,sPANGLONG,tURNAMA,sSURYA
aSIGN PAMAAEH,hNGLAYAR,jWISAD,iYECEK,fVIRAMA,aVOWEL SIGN PAMEPET,nNAELAENG,oEULEUNG,oGHULU,oOLONG
oYUKU,3FLOWER,3RISE,7 OVER MOUNTAINS,3SET OVER BUILDINGS,2PERHERO,5SCRIPT EIGHT,dQUALS SIGN,cFIVE
dOUR,cLATIN SMALL LETTER I,vN,dEFT PARENTHESIS,cMINUS,cNINE,cONE,cPLUS SIGN,cRIGHT PARENTHESIS
cSEVEN,dIX,cTHREE,dWO,cZERO,6ET ABOVE LEFTWARDS ARROW,fSUBSET,hPERSET
9BESIDE AND JOINED BY DASH WITH SUBSET,gSUBSET,9OF,b ABOVE ALMOST EQUAL TO,iEQUALS SIGN
iNOT EQUAL TO,iTILDE OPERATOR,cOR EQUAL TO,n WITH DOT ABOVE,cWITH NOT EQUAL TO,9PRECEDING SOLIDUS
9WITH DOT,eMULTIPLICATION SIGN BELOW,ePLUS SIGN BELOW,5VILLAIN,2RFACE INTEGRAL,4ER,2SHI
3PENSION RAILWAY,1WAN,3SH AMPERSAND ORNAMENT,2IMMER,2UNG DASH,1YLOTI NAGRI LETTER A,kBHO,lO,kCHO,lO
kDDHO,mO,lHO,lO,kE,kGHO,lO,kHO,kI,kJHO,lO,kKHO,lO,kLO,kMO,kNO,kO,kPHO,lO,kRO,lRO,kSO,kTHO,lO,lTHO,mO
kU,dPOETRY MARK-1,p2,p3,p4,dSIGN ALTERNATE HASANTA,jNUSVARA,iDVISVARA,iHASANTA,dVOWEL SIGN A,oE,oI
oOO,oU,2MBOL FOR ACKNOWLEDGE,bBACKSPACE,cELL,bCANCEL,dRRIAGE RETURN,bDATA LINK ESCAPE,cELETE
h FORM TWO,dVICE CONTROL FOUR,qONE,qTHREE,rWO,bEND OF MEDIUM,iTEXT,jRANSMISSION,u BLOCK,dQUIRY
cSCAPE,bFILE SEPARATOR,cORM FEED,bGROUP SEPARATOR,bHORIZONTAL TABULATION,bLINE FEED,bMARKS CHAPTER
bNEGATIVE ACKNOWLEDGE,dWLINE,cULL,bRECORD SEPARATOR,bSAMARITAN SOURCE,cHIFT IN,hOUT,cPACE
cTART OF HEADING,kTEXT,cUBSTITUTE,l FORM TWO,cYNCHRONOUS IDLE,bTYPE A ELECTRONICS,bUNIT SEPARATOR
bVERTICAL TABULATION,3METRY,2N,3AGOGUE,3CHRONOUS IDLE,2RIAC ABBREVIATION MARK,7BARREKH
7COLON SKEWED LEFT,kRIGHT,9NTRACTION,7DOTTED ZLAMA ANGULAR,kHORIZONTAL,7END OF PARAGRAPH,8SASA ABOVE
dBELOW,7FEMININE DOT,7HARKLEAN ASTERISCUS,gMETOBELUS,gOBELUS,8BASA ABOVE,dBELOW,c-ESASA DOTTED
8ORIZONTAL COLON,7LETTER ALAPH,eBETH,eDALATH,fOTLESS DALATH RISH,eE,eFINAL SEMKATH,eGAMAL,j GARSHUNI
eHE,gTH,eKAPH,eLAMADH,eMALAYALAM BHA,oJA,oLLA,qLA,oNGA,pNA,qNA,pYA,oRA,oSSA,oTTA,fIM,eNUN,ePE
gRSIAN BHETH,mDHALATH,mGHAMAL,eQAPH,eREVERSED PE,fISH,eSADHE,fEMKATH,fHIN,fOGDIAN FE,mKHAPH,mZHAIN
fUPERSCRIPT ALAPH,eTAW,fETH,i GARSHUNI,eWAW,eYUDH,i HE,eZAIN,7MUSIC,7OBLIQUE LINE ABOVE,kBELOW
7PTHAHA ABOVE,eBELOW,eDOTTED,7QUSHSHAYA,7RBASA ABOVE,dBELOW,8UKKAKHA,8WAHA,7SUBLINEAR COLON
m SKEWED LEFT,uRIGHT,hFULL STOP,9PRALINEAR COLON,o SKEWED LEFT,jFULL STOP,7THREE DOTS ABOVE,iBELOW
8WO VERTICAL DOTS ABOVE,pBELOW,7ZQAPHA ABOVE,eBELOW,eDOTTED,4NGE,0T-REX,2SHIRT,1AB
3LE TENNIS PADDLE AND BALL,2CO,2G AMPERSAND,5POSTROPHE,5STERISK,4CIRCUMFLEX ACCENT,5OLON,6MMA
8ERCIAL AT,4DIGIT EIGHT,aFIVE,bOUR,aNINE,aONE,aSEVEN,bIX,aTHREE,bWO,aZERO,5OLLAR SIGN,4EQUALS SIGN
5XCLAMATION MARK,4FULL STOP,4GRAVE ACCENT,6EATER-THAN SIGN,4HYPHEN-MINUS,4LATIN CAPITAL LETTER A,pB
pC,pD,pE,pF,pG,pH,pI,pJ,pK,pL,pM,pN,pO,pP,pQ,pR,pS,pT,pU,pV,pW,pX,pY,pZ,aSMALL LETTER A,nB,nC,nD,nE
nF,nG,nH,nI,nJ,nK,nL,nM,nN,nO,nP,nQ,nR,nS,nT,nU,nV,nW,nX,nY,nZ,5EFT CURLY BRACKET,9PARENTHESIS
9SQUARE BRACKET,6SS-THAN SIGN,5OW LINE,4NUMBER SIGN,4PERCENT SIGN,5LUS SIGN,4QUESTION MARK
6OTATION MARK,4REVERSE SOLIDUS,5IGHT CURLY BRACKET,aPARENTHESIS,aSQUARE BRACKET,4SEMICOLON,5OLIDUS
5PACE,4TILDE,4VERTICAL LINE,3ALOG LETTER A,gRCHAIC RA,fBA,fDA,fGA,fHA,fI,fKA,fLA,fMA,fNA,gGA,fPA,fRA
fSA,fTA,fU,fWA,fYA,8SIGN PAMUDPOD,dVIRAMA,8VOWEL SIGN I,jU,3BANWA LETTER A,gBA,gDA,gGA,gI,gKA,gLA
gMA,gNA,hGA,gPA,gSA,gTA,gU,gWA,gYA,9VOWEL SIGN I,kU,2I LE LETTER A,fI,fUE,eE,fE,fH,eFA,eHA,eI,eKA
fHA,eLA,eMA,eNA,fGA,eO,fO,ePA,fHA,eQA,eSA,eTA,fHA,fONE-2,j3,j4,j5,j6,fSA,gHA,eU,fE,eVA,eXA,eYA
4THAM COMBINING CRYPTOGRAMMIC DOT,bNSONANT SIGN BA,oFINAL NGA,oHIGH RATHA OR LOW PA,oLA TANG LAI
pOW PA,oMA,pEDIAL LA,vRA,oSA,9HORA DIGIT EIGHT,kFIVE,lOUR,kNINE,kONE,kSEVEN,lIX,kTHREE,lWO,kZERO
9LETTER A,gBA,gDA,gEE,gGREAT SA,gHIGH CA,mHA,lFA,lHA,lKA,mHA,mXA,lPA,mHA,lRATHA,lSA,mHA,mSA,lTA,mHA
lYA,gI,hI,gLA,iE,hLA,hOW CA,lHA,kFA,kHA,kKA,lHA,lXA,kPA,lHA,kRATHA,kSA,kTA,lHA,kYA,hUE,gMA,gNA,hGA
hYA,gOO,gRA,iNA,iTA,hUE,gU,hU,gWA,9SIGN CAANG,eDOKMAI,eHANG,fOY,eKAAN,iKUU,fEOW,fHUEN TONE-3,p4,p5
j-LUE KARAN,eMAI KANG,m LAI,iSAM,iYAMOK,eRA HAAM,fEVERSED ROTATED RANA,eSAKOT,gTKAAN,lKUU,gWAN
eTONE-1,j2,eWIANG,jWAAK,9THAM DIGIT EIGHT,kFIVE,lOUR,kNINE,kONE,kSEVEN,lIX,kTHREE,lWO,kZERO
9VOWEL SIGN A,lA,lE,lI,kE,kI,lI,kMAI SAT,kO,lA ABOVE,nBELOW,lO,lY,kTALL AA,lHAM AI,kU,lE,lU,mE
4VIET LETTER HIGH BO,lCHO,mO,lDO,lFO,lGO,lHO,lKHHO,nO,mO,lLO,lMO,lNGO,mO,mYO,lO,lPHO,mO,lRO,lSO,lTHO
mO,lVO,lYO,gLOW BO,kCHO,lO,kDO,kFO,kGO,kHO,kKHHO,mO,lO,kLO,kMO,kNGO,lO,lYO,kO,kPHO,lO,kRO,kSO,kTHO
lO,kVO,kYO,9MAI KANG,eHIT,9SYMBOL HO HOI,gKOI KOI,iN,gNUENG,gSAM,9TONE MAI EK,iNUENG,iSONG,iTHO
9VOWEL AA,gM,gN,gUE,gY,fE,fI,gA,fO,fU,gA,gE,hA,2KEOUT BOX,3RI ABBREVIATION SIGN,6DIGIT EIGHT,cFIVE
dOUR,cNINE,cONE,cSEVEN,dIX,cTHREE,dWO,cZERO,6LETTER A,eA,eI,eRCHAIC KHA,eU,dBA,eHA,dCA,eHA,dDA,eDA
fHA,eHA,dE,dGA,eHA,dHA,dI,eI,dJA,eHA,dKA,eHA,dLA,dMA,dNA,eGA,eNA,eYA,dO,dPA,eHA,dRA,eRA,dSA,eHA,dTA
eHA,eTA,fHA,dU,eU,dVA,dYA,6SIGN ANUSVARA,bNUKTA,bVIRAMA,dSARGA,6VOWEL SIGN AA,iI,iU,hE,hI,iI,hO,hU
iU,2LLY MARK FIVE,bONE,2MALE,3IL AND ODD SIGN,7S ABOVE SIGN,7U LENGTH MARK,6CREDIT SIGN,7URRENT SIGN
6DAY SIGN,7EBIT SIGN,7IGIT EIGHT,cFIVE,dOUR,cNINE,cONE,cSEVEN,dIX,cTHREE,dWO,cZERO
7RY CULTIVATION SIGN,6FRACTION DOWNSCALING FACTOR KIIZH,fONE EIGHTH,oIETH,jFIFTH,kORTIETH,jHALF-1,o2
jONE-HUNDRED-AND-SIXTIETH,jQUARTER,jSIXTEENTH-1,t2,nY-FOURTH,jTENTH,kHIRTY-SECOND
lREE-HUNDRED-AND-TWENTIETH,kWENTIETH,fTHREE EIGHTIETHS,lQUARTERS,lSIXTEENTHS,pY-FOURTHS,lTWENTIETHS
6IN POSSESSION SIGN,6LAND SIGN,7ETTER A,eA,eI,eU,dCA,dE,eE,dHA,dI,eI,dJA,dKA,dLA,eLA,fLA,dMA,dNA,eGA
eNA,fNA,eYA,dO,eO,dPA,dRA,eRA,dSA,eHA,eSA,dTA,eTA,dU,eU,dVA,dYA,6MONTH SIGN,6NUMBER ONE HUNDRED
hTHOUSAND,dSIGN,dTEN,6OM,6PUNCTUATION END OF TEXT,6RUPEE SIGN,6SALT PAN SIGN,7IGN AAZHAAKKU,cNUSVARA
bCEVITU,bKAACU,cURUNI,dZHI,bMUKKURUNI,dTHALIYA,dUVUZHAKKU,bNEL,bPAARAM,dNAM,dTHAKKU,cON,bUZHAKKU
bVAKAIYARAA,dRAAKAN,cELI,cIRAMA,dSARGA,7PENT SIGN,7TARTING FROM SIGN,6TOTAL SIGN
7RADITIONAL CREDIT SIGN,iNUMBER SIGN,6VOWEL SIGN AA,iI,iU,hE,iE,hI,iI,hO,iO,hU,iU
6WET CULTIVATION SIGN,6YEAR SIGN,2NABATA TREE,3GERINE,4SA DIGIT EIGHT,dFIVE,eOUR,dNINE,dONE,dSEVEN
eIX,dTHREE,eWO,dZERO,7LETTER AC,fQ,fWC,gQ,gX,gZ,fX,fZ,eBA,eCA,fHA,eDA,fHA,eEC,fQ,fX,fZ,eFA,fINAL NG
eGA,fHA,eHA,fTA,gTA,eIC,fQ,fX,fZ,eKA,fHA,eLA,fONG UEX,eMA,fC,fQ,fX,fZ,eNA,fGA,fHA,fYA,eOC,fQ,fX,fZ
ePA,fHA,eRA,eSA,fHA,gORT AWX,kUEZ,eTA,fHA,fSA,eUC,fEC,gQ,gX,gZ,fIC,gQ,gUC,hQ,hX,hZ,gX,gZ,fQ,fX,fZ
eVC,fQ,fX,fZ,eWA,eXA,eYA,eZA,4UT COMPONENT-001,j2,j3,j4,j5,j6,j7,j8,j9,i10,j1,j2,j3,j4,j5,j6,j7,j8
j9,i20,j1,j2,j3,j4,j5,j6,j7,j8,j9,i30,j1,j2,j3,j4,j5,j6,j7,j8,j9,i40,j1,j2,j3,j4,j5,j6,j7,j8,j9,i50
j1,j2,j3,j4,j5,j6,j7,j8,j9,i60,j1,j2,j3,j4,j5,j6,j7,j8,j9,i70,j1,j2,j3,j4,j5,j6,j7,j8,j9,i80,j1,j2
j3,j4,j5,j6,j7,j8,j9,i90,j1,j2,j3,j4,j5,j6,j7,j8,j9,h100,j1,j2,j3,j4,j5,j6,j7,j8,j9,i10,j1,j2,j3,j4
j5,j6,j7,j8,j9,i20,j1,j2,j3,j4,j5,j6,j7,j8,j9,i30,j1,j2,j3,j4,j5,j6,j7,j8,j9,i40,j1,j2,j3,j4,j5,j6
j7,j8,j9,i50,j1,j2,j3,j4,j5,j6,j7,j8,j9,i60,j1,j2,j3,j4,j5,j6,j7,j8,j9,i70,j1,j2,j3,j4,j5,j6,j7,j8
j9,i80,j1,j2,j3,j4,j5,j6,j7,j8,j9,i90,j1,j2,j3,j4,j5,j6,j7,j8,j9,h200,j1,j2,j3,j4,j5,j6,j7,j8,j9,i10
j1,j2,j3,j4,j5,j6,j7,j8,j9,i20,j1,j2,j3,j4,j5,j6,j7,j8,j9,i30,j1,j2,j3,j4,j5,j6,j7,j8,j9,i40,j1,j2
j3,j4,j5,j6,j7,j8,j9,i50,j1,j2,j3,j4,j5,j6,j7,j8,j9,i60,j1,j2,j3,j4,j5,j6,j7,j8,j9,i70,j1,j2,j3,j4
j5,j6,j7,j8,j9,i80,j1,j2,j3,j4,j5,j6,j7,j8,j9,i90,j1,j2,j3,j4,j5,j6,j7,j8,j9,h300,j1,j2,j3,j4,j5,j6
j7,j8,j9,i10,j1,j2,j3,j4,j5,j6,j7,j8,j9,i20,j1,j2,j3,j4,j5,j6,j7,j8,j9,i30,j1,j2,j3,j4,j5,j6,j7,j8
j9,i40,j1,j2,j3,j4,j5,j6,j7,j8,j9,i50,j1,j2,j3,j4,j5,j6,j7,j8,j9,i60,j1,j2,j3,j4,j5,j6,j7,j8,j9,i70
j1,j2,j3,j4,j5,j6,j7,j8,j9,i80,j1,j2,j3,j4,j5,j6,j7,j8,j9,i90,j1,j2,j3,j4,j5,j6,j7,j8,j9,h400,j1,j2
j3,j4,j5,j6,j7,j8,j9,i10,j1,j2,j3,j4,j5,j6,j7,j8,j9,i20,j1,j2,j3,j4,j5,j6,j7,j8,j9,i30,j1,j2,j3,j4
j5,j6,j7,j8,j9,i40,j1,j2,j3,j4,j5,j6,j7,j8,j9,i50,j1,j2,j3,j4,j5,j6,j7,j8,j9,i60,j1,j2,j3,j4,j5,j6
j7,j8,j9,i70,j1,j2,j3,j4,j5,j6,j7,j8,j9,i80,j1,j2,j3,j4,j5,j6,j7,j8,j9,i90,j1,j2,j3,j4,j5,j6,j7,j8
j9,h500,j1,j2,j3,j4,j5,j6,j7,j8,j9,i10,j1,j2,j3,j4,j5,j6,j7,j8,j9,i20,j1,j2,j3,j4,j5,j6,j7,j8,j9,i30
j1,j2,j3,j4,j5,j6,j7,j8,j9,i40,j1,j2,j3,j4,j5,j6,j7,j8,j9,i50,j1,j2,j3,j4,j5,j6,j7,j8,j9,i60,j1,j2
j3,j4,j5,j6,j7,j8,j9,i70,j1,j2,j3,j4,j5,j6,j7,j8,j9,i80,j1,j2,j3,j4,j5,j6,j7,j8,j9,i90,j1,j2,j3,j4
j5,j6,j7,j8,j9,h600,j1,j2,j3,j4,j5,j6,j7,j8,j9,i10,j1,j2,j3,j4,j5,j6,j7,j8,j9,i20,j1,j2,j3,j4,j5,j6
j7,j8,j9,i30,j1,j2,j3,j4,j5,j6,j7,j8,j9,i40,j1,j2,j3,j4,j5,j6,j7,j8,j9,i50,j1,j2,j3,j4,j5,j6,j7,j8
j9,i60,j1,j2,j3,j4,j5,j6,j7,j8,j9,i70,j1,j2,j3,j4,j5,j6,j7,j8,j9,i80,j1,j2,j3,j4,j5,j6,j7,j8,j9,i90
j1,j2,j3,j4,j5,j6,j7,j8,j9,h700,j1,j2,j3,j4,j5,j6,j7,j8,j9,i10,j1,j2,j3,j4,j5,j6,j7,j8,j9,i20,j1,j2
j3,j4,j5,j6,j7,j8,j9,i30,j1,j2,j3,j4,j5,j6,j7,j8,j9,i40,j1,j2,j3,j4,j5,j6,j7,j8,j9,i50,j1,j2,j3,j4
j5,j6,j7,j8,j9,i60,j1,j2,j3,j4,j5,j6,j7,j8,7ITERATION MARK,2PE CARTRIDGE,5DRIVE,2URUS,2XI
1EACUP WITHOUT HANDLE,3POT,3R-OFF CALENDAR,4DROP-BARBED RIGHTWARDS ARROW,9SPOKED ASTERISK,2DDY BEAR
2LEPHONE LOCATION SIGN,aON TOP OF MODEM,aRECEIVER,i WITH PAGE,dORDER,aSIGN,4SCOPE,4VISION
3UGU AI LENGTH MARK,7DIGIT EIGHT,dFIVE,eOUR,dNINE,dONE,dSEVEN,eIX,dTHREE,eWO,dZERO
7FRACTION DIGIT ONE FOR EVEN POWERS OF FOUR,uODD POWERS OF FOUR,mTHREE FOR EVEN POWERS OF FOUR
wODD POWERS OF FOUR,nWO FOR EVEN POWERS OF FOUR,uODD POWERS OF FOUR,mZERO FOR ODD POWERS OF FOUR
7LENGTH MARK,9TTER A,fA,fI,fU,eBA,fHA,eCA,fHA,eDA,fDA,gHA,fHA,fZA,eE,fE,eGA,fHA,eHA,eI,fI,eJA,fHA
eKA,fHA,eLA,fLA,gLA,eMA,eNA,gKAARA POLLU,fGA,fNA,fYA,eO,fO,ePA,fHA,eRA,fRA,gRA,eSA,fHA,fSA,eTA,fHA
fSA,fTA,gHA,eU,fU,eVA,fOCALIC L,nL,mR,nR,eYA,7SIGN ANUSVARA,dVAGRAHA,cCANDRABINDU
dOMBINING ANUSVARA ABOVE,mCANDRABINDU ABOVE,cNUKTA,cSIDDHAM,cTUUMU,cVIRAMA,eSARGA,7VOWEL SIGN AA,jI
jU,iE,jE,iI,jI,iO,jO,iU,jU,iVOCALIC L,rL,qR,rR,2NGE SIGN,3NIS RACQUET AND BALL,3T,2ST TUBE
2TRAGRAM FOR ACCUMULATION,fDVANCE,fGGRAVATION,fSCENT,eBARRIER,fOLD RESOLUTION,fRANCHING OUT,eCENTRE
fHANGE,fLOSED MOUTH,jNESS,iURE,fOMPLETION,jIANCE,gNSTANCY,hTACT,iENTION,iRARIETY,eDARKENING
fECISIVENESS,gFECTIVENESS OR DISTORTION,gPARTURE,fIFFICULTIES,gMINISHMENT,hMING,gVERGENCE,fOUBT
fUTIES,eEASE,fMBELLISHMENT,fNCOUNTERS,gDEAVOUR,gLARGEMENT,fTERNITY,fXHAUSTION,eFAILURE,fLIGHT
fOLLOWING,gSTERING,fULL CIRCLE,iNESS,eGATHERING,n IN,fOING TO MEET,fREATNESS,fUARDEDNESS,eHARDNESS
fOLDING BACK,eINCREASE,gNER,eJOY,eKEEPING SMALL,fINSHIP,eLABOURING,gW OR MODEL,fEGION,eMASSING
fEASURE,fIRED,eON THE VERGE,fPPOSITION,ePACKING,gTTERN,fENETRATION,fURITY,eREACH,gLEASE,gSIDENCE
iSTANCE,hPONSE,fITUAL,eSEVERANCE,fINKING,fTOPPAGE,hVE,gRENGTH,eUNITY,eVASTNESS OR WASTING,eWAITING
gTCH,eYOUTHFULNESS,1HAANA AABAAFILI,8BAFILI,7EBEFILI,8EBEEFILI,8YBEYFILI,7IBIFILI,7LETTER AINU,fLIFU
eBAA,eCHAVIYANI,eDAADHU,gVIYANI,fHAALU,eFAAFU,eGAAFU,fHAINU,fNAVIYANI,eHAA,fHAA,eJAVIYANI,eKAAFU
fHAA,eLAAMU,fHAVIYANI,eMEEMU,eNAA,fOONU,ePAVIYANI,eQAAFU,eRAA,eSAADHU,fEENU,fHAVIYANI,gEENU
eTAVIYANI,fHAA,iLU,fO,fTAA,eVAAVU,eWAAVU,eYAA,eZAA,gVIYANI,fO,7OABOAFILI,8BOFILI,8OBOOFILI,7SUKUN
7UBUFILI,3I CHARACTER ANGKHANKHU,fBO BAIMAI,fCHO CHAN,nG,lING,lOE,fDO CHADA,iDEK,fFO FA,kN,hNGMAN
fHO HIP,iNOKHUK,fKHO KHAI,lON,lUAT,lWAI,jRAKHANG,iMUT,gO KAI,fLAKKHANGYAO,gO CHULA,iLING,gU
fMAI CHATTAWA,jEK,jHAN-AKAT,jTHO,kRI,iTAIKHU,iYAMOK,gO MA,fNGO NGU,gIKHAHIT,gO NEN,jU,fO ANG
fPAIYANNOI,gHINTHU,hO PHAN,lUNG,jSAMPHAO,gO PLA,fRO RUA,gU,fSARA A,lA,lE,lI MAIMALAI,rUAN,lM,kE,kI
lI,kO,kU,lE,mE,lU,gO RUSI,iSALA,jO,jUA,fTHANTHAKHAT,hO NANGMONTHO,jPHUTHAO,jTHAHAN,mN,lONG,lUNG
gO PATAK,iTAO,fWO WAEN,fYAMAKKAN,gO YAK,jING,6URRENCY SYMBOL BAHT,5DIGIT EIGHT,bFIVE,cOUR,bNINE,bONE
bSEVEN,cIX,bTHREE,cWO,bZERO,2ERE DOES NOT EXIST,6EXISTS,5FORE,4MODYNAMIC,6METER,2IN GREEK CROSS
5SALTIRE,6PACE,4KING FACE,3RD PLACE MEDAL,2ONG SANDAL,3UGHT BALLOON,2REE BUTTON MOUSE
6CONSECUTIVE EQUALS SIGNS,6DIMENSIONAL ANGLE,7OT PUNCTUATION,6LEFTWARDS ARROWS,7INES CONVERGING LEFT
nRIGHT,6NETWORKED COMPUTERS,6POINTED BLACK STAR,6RAYS ABOVE,bBELOW,bLEFT,bRIGHT,7IGHTWARDS ARROWS
6SPEECH BUBBLES,5-D BOTTOM-LIGHTED RIGHTWARDS ARROWHEAD
8LEFT-LIGHTED DOWNWARDS EQUILATERAL ARROWHEAD,8RIGHT-LIGHTED UPWARDS EQUILATERAL ARROWHEAD
8TOP-LIGHTED LEFTWARDS EQUILATERAL ARROWHEAD,kRIGHTWARDS ARROWHEAD,vEQUILATERAL ARROWHEAD,6EM DASH
6PER-EM SPACE,2UMBS DOWN SIGN,7UP SIGN,3NDER CLOUD AND RAIN,7STORM
1IBETAN ASTROLOGICAL SIGN -KHYUD PA,qSDONG TSHUGS,rGRA GCAN -CHAR RTAGS,8CANTILLATION SIGN CANG TE-U
qHEAVY BEAT,qLIGHT BEAT,qSBUB -CHAL,8DIGIT EIGHT,eFIVE,fOUR,eHALF EIGHT,jFIVE,kOUR,jNINE,jONE,jSEVEN
kIX,jTHREE,kWO,jZERO,eNINE,eONE,eSEVEN,fIX,eTHREE,fWO,eZERO,8KU RU KHA,h BZHI MIG CAN,8LETTER -A,fA
fBA,gHA,fCA,gHA,fDA,gDA,hHA,gHA,gZA,hHA,fFIXED-FORM RA,fGA,gHA,fHA,fJA,fKA,gHA,gKA,gSSA,fLA,fMA,fNA
gGA,gNA,gYA,fPA,gHA,fRA,gRA,fSA,gHA,gSA,fTA,gHA,gSA,hHA,gTA,hHA,fWA,fYA,fZA,gHA
9OGOTYPE SIGN CHAD RTAGS,mLHAG RTAGS,8MARK ANG KHANG GYAS,pON,dBKA- SHOG GI MGO RGYAN,nYIG MGO
eSDUS RTAGS,fKA- SHOG GI MGO RGYAN,gUR YIG MGO,dCARET -DZUD RTAGS BZHI MIG CAN,vME LONG CAN
jYIG MGO PHUR SHAD MA,eHE MGO,eLOSING BRDA RNYING YIG MGO SGAB MA,lYIG MGO SGAB MA
dDELIMITER TSHEG BSTAR,dGTER TSHEG,iYIG MGO -UM GTER TSHEG MA,uRNAM BCAD MA,qTRUNCATED A
eUG RTAGS GYAS,pON,dHALANTA,dINITIAL BRDA RNYING YIG MGO MDUN MA,lYIG MGO MDUN MA,fTERSYLLABIC TSHEG
dLEADING MCHAN RTAGS,dMNYAM YIG GI MGO RGYAN,dNGAS BZUNG NYI ZLA,oSGOR RTAGS,eYIS SHAD,iTSHEG,n SHAD
dPALUTA,dRGYA GRAM SHAD,eIN CHEN SPUNGS SHAD,dSBRUL SHAD,eHAD,dTRAILING MCHAN RTAGS,eSA -PHRU
fHEG SHAD,dYIG MGO TSHEG SHAD MA,8SIGN GRU CAN RGYINGS,hMED RGYINGS,dINVERTED MCHU CAN,dLCE TSA CAN
fI RTAGS,dMAR TSHES,eCHU CAN,dNYI ZLA NAA DA,dRDEL DKAR GCIG,oNYIS,oSUM,nRDEL NAG,iNAG GCIG,nNYIS
nSUM,mRDEL DKAR,eJES SU NGA RO,eNAM BCAD,dSNA LDAN,dYANG RTAGS,fR TSHES,9UBJOINED LETTER -A,pA,pBA
qHA,pCA,qHA,pDA,qDA,rHA,qHA,qZA,rHA,pFIXED-FORM RA,z WA,z YA,pGA,qHA,pHA,pJA,pKA,qHA,qSSA,pLA,pMA
pNA,qGA,qNA,qYA,pPA,qHA,pRA,pSA,qHA,qSA,pTA,qHA,qSA,rHA,qTA,rHA,pWA,pYA,pZA,qHA
iSIGN INVERTED MCHU CAN,nLCE TSA CAN,nMCHU CAN,9YLLABLE OM,aMBOL DRIL BU,fNOR BU,l BZHI -KHYIL
mGSUM -KHYIL,mNYIS -KHYIL,fPADMA GDAN,gHUR PA,fRDO RJE,m RGYA GRAM,8VOWEL SIGN AA,jE,kE,jI,kI,jO,kO
jREVERSED I,tI,jU,kU,jVOCALIC L,sL,rR,sR,2CKET,2E OVER INFINITY,2FINAGH CONSONANT JOINER
9LETTER AHAGGAR YAZH,hYER YAGH,gBERBER ACADEMY YAH,xJ,gTAWELLEMET YAZ,hUAREG YAGH,qN,pH,pK,qH,pNG,pQ
pZH,gYA,iA,iB,jH,iCH,iD,jD,kH,jH,iF,iG,jH,kH,iH,jH,iJ,iK,jH,kH,iL,iM,iN,iP,iQ,iR,jR,iS,jH,jS,iT,jH
jT,iV,iW,iY,iZ,jH,jZ,hE,iY,hI,hO,hU,9MODIFIER LETTER LABIALIZATION MARK,9SEPARATOR MARK,2GER,5 FACE
3HT TRIFOLIATE SNOWFLAKE,2LDE,5 OPERATOR,e ABOVE LEFTWARDS ARROW,lRIGHTWARDS ARROW,fWITH DOT ABOVE
kRISING DOTS,6WITH DOT ABOVE,fBELOW,bRING ABOVE,2MER CLOCK,4S WITH LEFT HALF BLACK,bRIGHT HALF BLACK
2NY,4 TWO DOTS OVER ONE DOT PUNCTUATION,2RED FACE,3HUTA ABBREVIATION SIGN,9NJI,8DIGIT EIGHT,eFIVE
fOUR,eNINE,eONE,eSEVEN,fIX,eTHREE,fWO,eZERO,8GVANG,8LETTER A,gA,gI,gU,fBA,gHA,fCA,gHA,fDA,gDA,hHA
gHA,fE,fGA,gHA,fHA,fI,gI,fJA,gHA,fKA,gHA,fLA,fMA,fNA,gGA,gNA,gYA,fO,fPA,gHA,fRA,fSA,gHA,gSA,fTA,gHA
gTA,hHA,fU,gU,fVA,gOCALIC L,oL,nR,oR,fYA,8OM,8SIGN ANUSVARA,eVAGRAHA,dCANDRABINDU,dNUKTA,dVIRAMA
fSARGA,8VOWEL SIGN AA,kI,kU,jE,jI,kI,jO,jSHORT E,pO,jU,kU,jVOCALIC L,sL,rR,sR,3ONIAN SIGN CAPITAL ET
eET,1OILET,2KYO TOWER,2MATO,2NGUE,2OLBOX,3TH,5BRUSH,2P ARC ANTICLOCKWISE ARROW,r WITH PLUS
8CLOCKWISE ARROW WITH MINUS,4CURLY BRACKET,4HALF BLACK CIRCLE,9INTEGRAL,9LEFT PARENTHESIS
9RIGHT PARENTHESIS,9SECTION SIGN,6T,4LEFT CORNER,aROP,9HALF BRACKET,4PARENTHESIS,4RIGHT CORNER,bROP
aHALF BRACKET,4SQUARE BRACKET,4TORTOISE SHELL BRACKET,4WITH UPWARDS ARROW ABOVE
2RTOISE SHELL BRACKETED CJK UNIFIED IDEOGRAPH-4E09,zD IDEOGRAPH-4E8C,zD IDEOGRAPH-52DD
zD IDEOGRAPH-5B89,zD IDEOGRAPH-6253,zD IDEOGRAPH-6557,zD IDEOGRAPH-672C,zD IDEOGRAPH-70B9
zD IDEOGRAPH-76D7,pLATIN CAPITAL LETTER S,2TAL RUNOUT,3O LETTER A,dE,cBA,dREATHY AE,kE,lO,kI,lU,cCHA
cDA,cE,dO,cGA,cHA,cI,dU,cJA,cKA,cLA,cMA,cNA,dGA,cO,cPA,cRA,cSA,cTA,cU,cWA,cYA,5SIGN RISING TONE
1RACKBALL,4TOR,3DE MARK SIGN,3IN,3M,4 CAR,3NSPLUTO,5VERSAL INTERSECTION,2IANGLE WITH DOT ABOVE
eROUNDED CORNERS,eSERIFS AT BOTTOM,eUNDERBAR,8-HEADED RIGHTWARDS ARROW,6ULAR BULLET,bFLAG ON POST
bRULER,3COLON,3DENT EMBLEM,3GRAM FOR EARTH,cFIRE,cHEAVEN,cLAKE,cMOUNTAIN,cTHUNDER,cWATER,dIND
3PLE COLON OPERATOR,7DAGGER,7HORIZONTAL BAR WITH DOUBLE VERTICAL STROKE,rTRIPLE VERTICAL STROKE
7INTEGRAL,7NESTED GREATER-THAN,eLESS-THAN,7PLUS,8RIME,7SOLIDUS BINARY RELATION,7TILDE
7VERTICAL BAR BINARY RELATION,kDELIMITER,kRIGHT TURNSTILE,kWITH HORIZONTAL STROKE,2OLL,5EYBUS,3PHY
4ICAL DRINK,9FISH,2UE,4 LIGHT MOON ARTA,3MPET,1UGRIK SIGN,2LIP,2MBLER GLASS,2RKEY,4ISH LIRA SIGN
3NED AMPERSAND,8NGLE,7BLACK PENTAGON,dSHOGI PIECE,7CAPITAL F,8OMMA,7DAGGER,8IGIT THREE,eWO
7GREEK SMALL LETTER IOTA,7NORTH EAST POINTING LEAF,dWEST POINTING LEAF,9T SIGN,7OK HAND SIGN
7SANS-SERIF CAPITAL G,qL,qY,8EMICOLON,8MALL F,8OUTH EAST POINTING LEAF,dWEST POINTING LEAF
7WHITE SHOGI PIECE,3TLE,1WELVE POINTED BLACK STAR,2ISTED RIGHTWARDS ARROWS
2O ASTERISKS ALIGNED VERTICALLY,4BUTTON MOUSE,4CONSECUTIVE EQUALS SIGNS,4DOT LEADER,8PUNCTUATION
7S OVER ONE DOT PUNCTUATION,4HEARTS,4INTERSECTING LOGICAL AND,pOR,4JOINED SQUARES
4LOGICAL AND OPERATOR,cOR OPERATOR,4MEN HOLDING HANDS,4SPEECH BUBBLES,4WOMEN HOLDING HANDS,3-EM DASH
0UGARITIC LETTER AIN,hLPA,gBETA,gDELTA,hHAL,gGAMLA,hHAIN,gHO,iTA,gI,gKAF,hHA,gLAMDA,gMEM,gNUN,gPU
gQOPA,gRASHA,gSADE,iMKA,hHIN,hSU,gTET,hHANNA,hO,gU,gWO,gYOD,gZETA,hU,9WORD DIVIDER,1MBRELLA
8 ON GROUND,9WITH RAIN DROPS,1NAMUSED FACE,2CERTAINTY SIGN,2DERTIE,3O SYMBOL,2ICORN FACE,3ON
5 ABOVE BAR ABOVE INTERSECTION,cINTERSECTION,6BESIDE AND JOINED WITH UNION,6WITH LOGICAL OR
bMINUS SIGN,bOVERBAR,3T SEPARATOR,4ED SYMBOL,3VERSAL RECYCLING SYMBOL,2MARRIED PARTNERSHIP SYMBOL
1P ARROW THROUGH CIRCLE,8HEAD,c BETWEEN TWO HORIZONTAL BARS,dIN A RECTANGLE BOX
3BARB LEFT DOWN BARB LEFT HARPOON,nRIGHT HARPOON,8RIGHT DOWN BARB LEFT HARPOON,oRIGHT HARPOON
3DOWN ARROW,d WITH BASE,8BLACK ARROW,8DOUBLE ARROW,8SANS-SERIF ARROW,8TRIANGLE-HEADED ARROW
8WHITE ARROW,3FISH TAIL,3RIGHT DIAGONAL ELLIPSIS,3TACK,7 WITH CIRCLE ABOVE,2-POINTING AIRPLANE
cMILITARY AIRPLANE,cRED TRIANGLE,cSMALL AIRPLANE,iRED TRIANGLE,cTRIANGLE WITH LEFT HALF BLACK
qRIGHT HALF BLACK,2PER AND LEFT AND LOWER TRIANGULAR THREE QUARTERS BLOCK,bOWER ONE EIGHTH BLOCK
gTRIANGULAR HALF BLOCK,aRIGHT AND LOWER TRIANGULAR THREE QUARTERS BLOCK,6BLADE SCISSORS
6FIVE EIGHTHS BLOCK,6HALF BLOCK,g AND LOWER HALF INVERSE MEDIUM SHADE,bCIRCLE
bINVERSE MEDIUM SHADE AND LOWER HALF BLOCK,jWHITE CIRCLE,bMEDIUM SHADE
6LEFT BLOCK DIAGONAL LOWER CENTRE TO LOWER MIDDLE RIGHT,zTRE TO UPPER MIDDLE RIGHT
zTRE TO UPPER RIGHT,wLEFT TO LOWER MIDDLE RIGHT,zT TO UPPER CENTRE,zT TO UPPER MIDDLE RIGHT
wMIDDLE LEFT TO UPPER CENTRE,zDLE LEFT TO UPPER MIDDLE RIGHT,zDLE LEFT TO UPPER RIGHT
qUPPER MIDDLE LEFT TO UPPER CENTRE,zDLE LEFT TO UPPER RIGHT,bCORNER WITH DOT
bOR LOWER RIGHT CURLY BRACKET SECTION,bQUADRANT CIRCULAR ARC,bTO LOWER RIGHT FILL,cRIANGLE
hULAR MEDIUM SHADE,6ONE EIGHTH BLOCK,aQUARTER BLOCK
6RIGHT BLOCK DIAGONAL LOWER MIDDLE LEFT TO LOWER CENTRE,zDDLE LEFT TO LOWER RIGHT
rUPPER CENTRE TO LOWER MIDDLE RIGHT,zNTRE TO LOWER RIGHT,zNTRE TO UPPER MIDDLE RIGHT
xLEFT TO LOWER CENTRE,zFT TO LOWER MIDDLE RIGHT,zFT TO UPPER MIDDLE RIGHT
xMIDDLE LEFT TO LOWER CENTRE,zDDLE LEFT TO LOWER MIDDLE RIGHT,zDDLE LEFT TO LOWER RIGHT
cDROP-SHADOWED WHITE SQUARE,cOR LOWER LEFT CURLY BRACKET SECTION,cPENCIL,cQUADRANT CIRCULAR ARC
cSHADOWED WHITE CIRCLE,rSQUARE,cTO LOWER LEFT FILL,dRIANGLE,iULAR MEDIUM SHADE,6SEVEN EIGHTHS BLOCK
6THREE EIGHTHS BLOCK,cQUARTERS BLOCK,7RIANGULAR ONE QUARTER BLOCK,2SIDE-DOWN FACE,2WARDS ANCORA
9RROW,d AND RIGHT ONE EIGHTH BLOCK,eFROM BAR,eLEFTWARDS OF DOWNWARDS ARROW,eTO BAR
eWITH DOUBLE STROKE,jEQUILATERAL ARROWHEAD,jHORIZONTAL STROKE,jLARGE TRIANGLE ARROWHEAD
jMEDIUM TRIANGLE ARROWHEAD,jNOTCHED TAIL,jSMALL EQUILATERAL ARROWHEAD,pTRIANGLE ARROWHEAD
jTIP LEFTWARDS,nRIGHTWARDS,8BLACK ARROW,eCIRCLED WHITE ARROW,8COMPRESSED ARROW,8DASHED ARROW
9OUBLE ARROW,8FINGER-POST ARROW,8HARPOON WITH BARB LEFT BESIDE DOWNWARDS HARPOON WITH BARB RIGHT
zDE UPWARDS HARPOON WITH BARB RIGHT,vFROM BAR,vTO BAR,uWARDS,qRIGHT FROM BAR,wTO BAR,vWARDS
9EAVY ARROW,eCOMPRESSED ARROW,8PAIRED ARROWS,8QUADRUPLE ARROW,8ROCKET,8SANS-SERIF ARROW
9QUARED ARROW,8TRIANGLE ARROWHEAD,g-HEADED ARROW,t LEFTWARDS OF DOWNWARDS TRIANGLE-HEADED ARROW
uTO BAR,uWITH BOLD SHAFT,zDOUBLE HORIZONTAL STROKE,zHEAVY SHAFT,zLONG TIP LEFTWARDS
zLONG TIP RIGHTWARDS,zMEDIUM SHAFT,zNARROW SHAFT,zVERY HEAVY SHAFT,oDASHED ARROW,oPAIRED ARROWS
bPLE ARROW,9WO HEADED ARROW,b-HEADED ARROW FROM SMALL CIRCLE,pWITH TRIANGLE ARROWHEADS,8WHITE ARROW
j FROM BAR,s WITH HORIZONTAL BAR,kON PEDESTAL,v WITH HORIZONTAL BAR,zH VERTICAL BAR
kWITHIN TRIANGLE ARROWHEAD,eDOUBLE ARROW,q ON PEDESTAL,1RANUS,1S,0VAI COMMA,4DIGIT EIGHT,aFIVE,bOUR
aNINE,aONE,aSEVEN,bIX,aTHREE,bWO,aZERO,4FULL STOP,4QUESTION MARK,4SYLLABLE A,eN,dBA,eE,fE,eHA,fE,gE
fI,fO,gO,fU,eI,eO,fO,eU,dCA,eE,fE,eI,eO,fO,eU,dDA,eE,fE,eHA,fE,gE,fHA,gE,hE,gI,gO,hO,gU,fI,fO,gO,fU
eI,eO,fO,eU,dE,eE,fN,eN,dFA,eE,fE,eI,eO,fO,eU,dGA,eBA,fE,gE,gN,fI,fO,gN,gO,fU,eE,fE,fN,eI,eO,fO,eU
dHA,fN,eE,fE,fN,eI,fN,eO,fN,fO,eU,fN,dI,eN,dJA,eE,fE,eI,eO,fO,eU,dKA,fN,eE,fE,eI,eO,fO,ePA,gN,fE,gE
gN,fI,fO,gO,fU,eU,dLA,eE,fE,fNGTHENER,eI,eO,fO,eU,dMA,eBA,fE,gE,fI,fO,gO,fU,eE,fE,eGBA,gE,hE,gI,gO
hO,gU,eI,eO,fO,eU,dNA,eDA,fE,gE,fI,fO,gLE DO,jFA,jKA,jMA,jSOO,gO,fU,eE,fE,eG,fAN,fEN,fGA,gE,hE,hN,gI
gO,hO,gU,fON,eI,eJA,fE,gE,fI,fO,gO,fU,eO,fO,eU,eYA,fE,gE,fI,fO,gO,fU,dO,eN,eO,fN,dPA,eE,fE,eI,eO,fO
eU,dRA,eE,fE,eI,eO,fO,eU,dSA,eE,fE,eHA,fE,gE,fI,fO,gO,fU,eI,eO,fO,eU,dTA,eE,fE,eHA,fE,gE,fI,fO,gO,fU
eI,eO,fO,eU,dU,eN,dVA,eE,fE,eI,eO,fO,eU,dWA,fN,eE,fE,gN,fN,eI,fN,eO,fN,fO,gN,eU,fN,dYA,eE,fE,eI,eO
fO,eU,dZA,eE,fE,eHA,fE,gE,fI,fO,gO,fU,eI,eO,fO,eU,6MBOL BANG,bDANG,cO-O,dONG,bFAA,cEENG,bJONG,bKEENG
cUNG,bNII,bTAA,cING,cONG,2MPIRE,2RIATION SELECTOR-1,k0,l0,l1,l2,l3,l4,l5,l6,l7,l8,l9,k1,l0,l1,l2,l3
l4,l5,l6,l7,l8,l9,k2,l0,l1,l2,l3,l4,l5,l6,l7,l8,l9,k3,l0,l1,l2,l3,l4,l5,l6,l7,l8,l9,k4,l0,l1,l2,l3
l4,l5,l6,l7,l8,l9,k5,l0,l1,l2,l3,l4,l5,l6,l7,l8,l9,k6,l0,l1,l2,l3,l4,l5,l6,l7,l8,l9,k7,l0,l1,l2,l3
l4,l5,l6,l7,l8,l9,k8,l0,l1,l2,l3,l4,l5,l6,l7,l8,l9,k9,l0,l1,l2,l3,l4,l5,l6,l7,l8,l9,j2,k0,l0,l1,l2
l3,l4,l5,l6,l7,l8,l9,k1,l0,l1,l2,l3,l4,l5,l6,l7,l8,l9,k2,l0,l1,l2,l3,l4,l5,l6,l7,l8,l9,k3,l0,l1,l2
l3,l4,l5,l6,l7,l8,l9,k4,l0,l1,l2,l3,l4,l5,l6,l7,l8,l9,k5,l0,l1,l2,l3,l4,l5,l6,k6,k7,k8,k9,j3,k0,k1
k2,k3,k4,k5,k6,k7,k8,k9,j4,k0,k1,k2,k3,k4,k5,k6,k7,k8,k9,j5,k0,k1,k2,k3,k4,k5,k6,k7,k8,k9,j6,k0,k1
k2,k3,k4,k5,k6,k7,k8,k9,j7,k0,k1,k2,k3,k4,k5,k6,k7,k8,k9,j8,k0,k1,k2,k3,k4,k5,k6,k7,k8,k9,j9,k0,k1
k2,k3,k4,k5,k6,k7,k8,k9,1ECTOR OR CROSS PRODUCT,2DIC SIGN ANUSVARA ANTARGOMUKHA,kBAHIRGOMUKHA
kUBHAYATO MUKHA,kVAMAGOMUKHA,v WITH TAIL,cRDHAVISARGA,cTIKRAMA,bDOUBLE ANUSVARA ANTARGOMUKHA
bHEXIFORM LONG ANUSVARA,bJIHVAMULIYA,bLONG ANUSVARA,bNIHSHVASA,bREVERSED VISARGA ANUDATTA,sUDATTA
cOTATED ARDHAVISARGA,cTHANG LONG ANUSVARA,bTIRYAK,bUPADHMANIYA,bVISARGA ANUDATTA,r WITH TAIL
jSVARITA,jUDATTA,p WITH TAIL,bYAJURVEDIC MIDLINE SVARITA,6TONE ATHARVAVEDIC INDEPENDENT SVARITA
bCANDRA ABOVE,iBELOW,bDOT BELOW,dUBLE RING ABOVE,iSVARITA,bKARSHANA,dTHAKA ANUDATTA,bPRENKHA
bRIGVEDIC KASHMIRI INDEPENDENT SVARITA,dNG ABOVE,bSHARA,bTHREE DOTS BELOW,cRIPLE SVARITA
cWO DOTS BELOW,bYAJURVEDIC AGGRAVATED INDEPENDENT SVARITA,mINDEPENDENT SVARITA
mKATHAKA INDEPENDENT SVARITA,zENDENT SVARITA SCHROEDER,2RSICLE,3TICAL BAR BESIDE RIGHT TRIANGLE
dDOUBLE LEFT TURNSTILE,dTRIPLE RIGHT TURNSTILE,dWITH HORIZONTAL STROKE,9ELLIPSIS,9FOUR DOTS
9IDEOGRAPHIC ITERATION MARK,9KANA REPEAT MARK,p LOWER HALF,qUPPER HALF,lWITH VOICED SOUND MARK
zUND MARK UPPER HALF,9LINE,d EXTENSION,eWITH CIRCLE ABOVE,qBELOW,jMIDDLE DOT,9MALE WITH STROKE SIGN
9ONE EIGHTH BLOCK-2,q3,q4,q5,q6,q7,9SIX DOTS,9TAB KEY,cULATION,j SET,aILDE,aRAFFIC LIGHT
9ZIGZAG LINE,3Y BOLD GREEK CROSS,5HEAVY EIGHT POINTED BLACK STAR,hSPOKED ASTERISK
bFIVE SPOKED ASTERISK,bGREEK CROSS,bREVERSE SOLIDUS,bSALTIRE,cIX SPOKED ASTERISK,cOLIDUS
bWHITE CIRCLE,hSQUARE,5MUCH GREATER-THAN,aLESS-THAN,2STA,1IBRATION MODE,2CTORY HAND,2DEO CAMERA
6GAME,5CASSETTE,2ETNAMESE ALTERNATE READING MARK CA,yNHAY,3WDATA SQUARE,2OLIN,2RGO
2THKUQI CAPITAL LETTER A,oBBE,pE,oCE,pHE,oDE,pHE,oE,pI,oFE,oGA,oHA,pHA,oI,pJE,oJE,oKA,oLA,pLA,oME
oNE,pJE,oO,oPE,oQA,oRE,oSE,pHE,oTE,pHE,oU,oVE,oXE,oY,oZE,9SMALL LETTER A,mBBE,nE,mCE,nHE,mDE,nHE,mE
nI,mFE,mGA,mHA,nHA,mI,nJE,mJE,mKA,mLA,nLA,mME,mNE,nJE,mO,mPE,mQA,mRE,mSE,nHE,mTE,nHE,mU,mVE,mXE,mY
mZE,1OIDED GREEK CROSS,2LCANO,3LEYBALL,3UME INTEGRAL,1S1,30,40,41,42,43,44,45,46,47,48,49,31,40,41
42,43,44,45,46,47,48,49,32,40,41,42,43,44,45,46,47,48,49,33,40,41,42,43,44,45,46,47,48,49,34,40,41
42,43,44,45,46,47,48,49,35,40,41,42,43,44,45,46,47,48,49,36,40,41,42,43,44,45,46,47,48,49,37,40,41
42,43,44,45,46,47,48,49,38,40,41,42,43,44,45,46,47,48,49,39,40,41,42,43,44,45,46,47,48,49,22,30,40
41,42,43,44,45,46,47,48,49,31,40,41,42,43,44,45,46,47,48,49,32,40,41,42,43,44,45,46,47,48,49,33,40
41,42,43,44,45,46,47,48,49,34,40,41,42,43,44,45,46,47,48,49,35,40,41,42,43,44,45,46,36,37,38,39,23
30,31,32,33,34,35,36,37,38,39,24,30,31,32,33,34,35,36,37,38,39,25,30,31,32,33,34,35,36,37,38,39,26
30,31,32,33,34,35,36,37,38,39,27,30,31,32,33,34,35,36,37,38,39,28,30,31,32,33,34,35,36,37,38,39,29
30,31,32,33,34,35,36,37,38,39,1T,2S,1ULCANUS,3GAR FRACTION FIVE EIGHTHS,lSIXTHS,hOUR FIFTHS
gONE EIGHTH,kFIFTH,kHALF,kNINTH,kQUARTER,kSEVENTH,lIXTH,kTENTH,lHIRD,gSEVEN EIGHTHS,gTHREE EIGHTHS
mFIFTHS,mQUARTERS,hWO FIFTHS,kTHIRDS,gZERO THIRDS,0WAFFLE,2NCHO DIGIT EIGHT,dFIVE,eOUR,dNINE,dONE
dSEVEN,eIX,dTHREE,eWO,dZERO,7LETTER A,fA,gN,hG,fNG,fU,eBA,eCA,eDA,eE,fN,eFA,eGA,eHA,eI,fNG,eJA,eKA
fHA,eLA,fLHA,eMA,eNA,fGA,fYA,eO,fN,gG,ePA,fHA,eRA,eSA,fHA,eTA,fHA,fRA,fSA,eU,fEN,eVA,eWA,eYA,fIH,eZA
7NGUN SIGN,7TONE KOI,fNI,cTUP,fNI,3ING CRESCENT MOON SYMBOL,7GIBBOUS MOON SYMBOL
2RANG CITI CAPITAL LETTER A,sM,sNG,sT,rBU,rDA,rE,sNN,tY,rGA,rHAR,sIYO,sOLO,tRR,rII,rKO,rNGAA,sUNG,rO
sDD,rPU,rSII,sSUU,rTTE,rUC,sU,rVIYO,rWI,rYA,sO,sU,tJ,cDIGIT EIGHT,iFIVE,jOUR,iNINE,iONE,iSEVEN,jIX
iTHREE,jWO,iZERO,cNUMBER EIGHTY,jFIFTY,kORTY,jNINETY,jSEVENTY,kIXTY,jTEN,kHIRTY,kWENTY,cOM
cSMALL LETTER A,qM,qNG,qT,pBU,pDA,pE,qNN,rY,pGA,pHAR,qIYO,qOLO,rRR,pII,pKO,pNGAA,qUNG,pO,qDD,pPU
pSII,qSUU,pTTE,pUC,qU,pVIYO,pWI,pYA,qO,qU,rJ,3NING SIGN,2STEBASKET,2TCH,3ER BUFFALO,6CLOSET,6POLO
6WAVE,5MELON,2VE ARROW POINTING DIRECTLY LEFT,tRIGHT,5DASH,3ING BLACK FLAG,7HAND SIGN,7WHITE FLAG
3Y DASH,5LINE,6OW LINE,5OVERLINE,2XING CRESCENT MOON SYMBOL,7GIBBOUS MOON SYMBOL,1EARY CAT FACE
6FACE,2DDING,3GE-TAILED RIGHTWARDS ARROW,2IERSTRASS ELLIPTIC FUNCTION,3GHT LIFTER,2ST SYRIAC CROSS
1HALE,2EEL,5 OF DHARMA,5CHAIR SYMBOL,2ITE ARROW SHAFT WIDTH ONE,oTWO THIRDS,6BULLET,6CHESS BISHOP
i ROTATED NINETY DEGREES,rTWO HUNDRED SEVENTY DEGREES,cEQUIHOPPER,m ROTATED NINETY DEGREES,cKING
g ROTATED NINETY DEGREES,pTWO HUNDRED SEVENTY DEGREES,dNIGHT,i ROTATED FORTY-FIVE DEGREES
rNINETY DEGREES,rONE HUNDRED THIRTY-FIVE DEGREES,rTHREE HUNDRED FIFTEEN DEGREES
sWO HUNDRED SEVENTY DEGREES,zRED TWENTY-FIVE DEGREES,i-BISHOP,jQUEEN,jROOK,cPAWN
g ROTATED NINETY DEGREES,pTWO HUNDRED SEVENTY DEGREES,cQUEEN,h ROTATED NINETY DEGREES
qTWO HUNDRED SEVENTY DEGREES,cROOK,g ROTATED NINETY DEGREES,pTWO HUNDRED SEVENTY DEGREES
cTURNED BISHOP,jKING,kNIGHT,jPAWN,jQUEEN,jROOK,7IRCLE,c CONTAINING BLACK SMALL CIRCLE
dWITH DOT RIGHT,kWN ARROW,iLOWER LEFT QUADRANT,oRIGHT QUADRANT,iTWO DOTS,iUPPER LEFT QUADRANT
oRIGHT QUADRANT,7LUB SUIT,7ONCAVE-SIDED DIAMOND,r WITH LEFTWARDS TICK,xRIGHTWARDS TICK,6DIAMOND
d CONTAINING BLACK MEDIUM DIAMOND,vSMALL DIAMOND,vVERY SMALL DIAMOND,eIN SQUARE,eSUIT
eWITH CENTRED DOT,7OWN POINTING BACKHAND INDEX,kINDEX,kLEFT HAND INDEX,a-POINTING SMALL TRIANGLE
kTRIANGLE,7RAUGHTS KING,fMAN,6EXCLAMATION MARK ORNAMENT,6FLAG,a WITH HORIZONTAL MIDDLE BLACK STRIPE
8ORETTE,9WER,7OUR POINTED CUSP,jSTAR,7ROWNING FACE,6HARD SHELL FLOPPY DISK,7EART,b SUIT
9VY CHECK MARK,cSALTIRE WITH ROUNDED CORNERS,8XAGON,7ORIZONTAL ELLIPSE,8URGLASS,6LARGE SQUARE
8TIN CROSS,7EFT LANE MERGE,bPOINTING BACKHAND INDEX,kINDEX,a-POINTING POINTER,kSMALL TRIANGLE
kTRIANGLE,7OZENGE CONTAINING BLACK SMALL LOZENGE,6MEDIUM DIAMOND,dLOZENGE,dSMALL SQUARE,eQUARE,eTAR
7OON SELENA,6NIB,6PARALLELOGRAM,7ENNANT,9TAGON,6QUESTION MARK ORNAMENT,6RECTANGLE
7IGHT POINTING BACKHAND INDEX,lINDEX,b-POINTING PENTAGON,mOINTER,lSMALL TRIANGLE,lTRIANGLE,6SCISSORS
7ESAME DOT,7HOGI PIECE,7MALL LOZENGE,cSQUARE,dTAR,8ILING FACE,7PADE SUIT,7QUARE,c BUTTON
dCONTAINING BLACK MEDIUM SQUARE,uSMALL SQUARE,uVERY SMALL SQUARE,dWITH CENTRE VERTICAL LINE
iLEFTWARDS TICK,jOWER LEFT QUADRANT,oRIGHT QUADRANT,iRIGHTWARDS TICK,jOUNDED CORNERS
iUPPER LEFT QUADRANT,oRIGHT QUADRANT,iVERTICAL BISECTING LINE,7TAR,7UN,9 BEHIND CLOUD,m WITH RAIN
aWITH RAYS,fSMALL CLOUD,6TELEPHONE,7OUCHTONE TELEPHONE,7RAPEZIUM
8IANGLE CONTAINING SMALL WHITE TRIANGLE,7WO-WAY LEFT WAY TRAFFIC,6UP POINTING BACKHAND INDEX,iINDEX
8-POINTING CHEVRON,iSMALL TRIANGLE,iTRIANGLE,q WITH DOT,6VERTICAL BAR,fELLIPSE,fRECTANGLE
9Y SMALL SQUARE,5-FEATHERED RIGHTWARDS ARROW,1IDE-HEADED DOWNWARDS BARB ARROW,mHEAVY BARB ARROW
mLIGHT BARB ARROW,mMEDIUM BARB ARROW,mVERY HEAVY BARB ARROW,cLEFTWARDS BARB ARROW,mHEAVY BARB ARROW
mLIGHT BARB ARROW,mMEDIUM BARB ARROW,mVERY HEAVY BARB ARROW,cNORTH EAST BARB ARROW,nHEAVY BARB ARROW
nLIGHT BARB ARROW,nMEDIUM BARB ARROW,nVERY HEAVY BARB ARROW,iWEST BARB ARROW,nHEAVY BARB ARROW
nLIGHT BARB ARROW,nMEDIUM BARB ARROW,nVERY HEAVY BARB ARROW,cRIGHTWARDS BARB ARROW,nHEAVY BARB ARROW
nLIGHT BARB ARROW,nMEDIUM BARB ARROW,nVERY HEAVY BARB ARROW,cSOUTH EAST BARB ARROW,nHEAVY BARB ARROW
nLIGHT BARB ARROW,nMEDIUM BARB ARROW,nVERY HEAVY BARB ARROW,iWEST BARB ARROW,nHEAVY BARB ARROW
nLIGHT BARB ARROW,nMEDIUM BARB ARROW,nVERY HEAVY BARB ARROW,cUPWARDS BARB ARROW,kHEAVY BARB ARROW
kLIGHT BARB ARROW,kMEDIUM BARB ARROW,kVERY HEAVY BARB ARROW,2GGLY VERTICAL LINE,2LTED FLOWER
2ND BLOWING FACE,5CHIME,4OW,3E GLASS,3KING FACE,2RED KEYBOARD,1J,1OLF FACE,2MAN,5 WITH BUNNY EARS
5S BOOTS,7CLOTHES,7HAT,7SANDAL,3ENS SYMBOL,2N SIGN,2OD,2RD JOINER,5SEPARATOR MIDDLE DOT,3LD MAP,3M
3RIED FACE,1RAPPED PRESENT,2EATH PRODUCT,3NCH,3STLERS,2ITING HAND,0X IN A RECTANGLE BOX,1-RAY
1IANGQI BLACK CANNON,fHARIOT,eELEPHANT,eGENERAL,eHORSE,eMANDARIN,eSOLDIER,8RED CANNON,dHARIOT
cELEPHANT,cGENERAL,cHORSE,cMANDARIN,cSOLDIER,1OR,0YAWNING FACE,1ELLOW HEART,2N SIGN
2ZIDI COMBINING HAMZA MARK,hMADDA MARK,7HYPHENATION MARK,7LETTER BE,eCHHIM,gIM,fIM,eDAD,gL,eELIF,fT
fW,fYN,eFA,eGAF,eHAY,fHA,eJA,eKAF,fHAF,eLAM,h WITH DOT ABOVE,eMIM,eNUN,eOW,ePE,fHE,eQAF,eRA,fHA,eSAD
fE,fHIN,fIN,eTA,fHE,eUM,eVA,g ALTERNATE FORM,eWAW,eXA,fHEYN,eYOT,h WITH CIRCUMFLEX ABOVE,eZA,gL,fE
1I RADICAL BBUT,cUR,bCHE,cIP,cUOP,cY,dP,dT,bDDUR,cU,bGA,cEP,cGOP,dUO,cOT,bHMO,cXIT,dOP,dUO,bJJIE,dUT
dY,cO,bKE,cIT,bLI,dE,cYR,bMI,cOP,bNBIE,cYIP,dOP,cZUP,bOP,bPUT,cYT,bQOT,bSHAT,dOP,dUR,dY,cSI,bTAT,cU
bVEP,cUR,bWO,bYIT,cO,bZA,cOT,cUP,dR,cZIET,3SYLLABLE A,dP,dT,dX,cBA,eP,eT,eX,dBA,fP,fT,fX,eE,fP,fX,eI
fE,gP,gT,gX,fP,fT,fX,eO,fP,fT,fX,eU,fO,gP,gX,fP,fR,gX,fT,fX,eY,fP,fT,fX,dE,eP,eX,dI,eE,fP,fT,fX,eP
eT,eX,dO,eP,eT,eX,dU,eO,fP,fX,eP,eR,fX,eT,eX,dY,eP,eR,fX,eT,eX,cCA,eP,eT,eX,dE,eP,eX,dHA,fP,fT,fX,eE
fP,fT,fX,eO,fP,fT,fX,eU,fO,gP,gT,gX,fP,fR,gX,fX,eY,fP,fR,gX,fT,fX,dI,eE,fP,fT,fX,eP,eT,eX,dO,eP,eT
eX,dU,eO,fP,fX,eP,eR,fX,eT,eX,dY,eP,eR,fX,eT,eX,cDA,eP,eT,eX,dDA,fP,fT,fX,eE,fP,fX,eI,fE,gP,gX,fP,fT
fX,eO,fP,fT,fX,eU,fO,gP,gX,fP,fR,gX,fT,fX,dE,eP,eX,dI,eE,fP,fX,eP,eT,eX,dO,eP,eT,eX,dU,eO,fX,eP,eR
fX,eT,eX,cE,dX,cFA,eP,eT,eX,dI,eP,eT,eX,dO,eP,eX,dU,eP,eR,fX,eT,eX,dY,eP,eT,eX,cGA,eP,eT,eX,dE,eP,eT
eX,dGA,fP,fT,fX,eE,fP,fT,fX,eI,fE,gP,gX,fT,fX,eO,fP,fT,fX,eU,fO,gP,gT,gX,fP,fR,gX,fT,fX,dI,eE,fP,fT
fX,eP,eT,eX,dO,eP,eT,eX,dU,eO,fP,fT,fX,eP,eR,fX,eT,eX,cHA,eP,eT,eX,dE,eP,eX,dIE,fX,eT,dLA,fP,fT,fX
eE,fP,fX,eI,fE,gP,gX,fP,fT,fX,eO,fP,fX,eU,fO,gP,gX,fP,fR,gX,fT,fX,eY,fP,fR,gX,fT,fX,dMA,fP,fT,fX,eI
fE,gP,gX,fP,fT,fX,eO,fP,fT,fX,eU,fO,gP,gX,fP,fR,gX,fT,fX,eY,fP,fR,gX,fX,dNA,fP,fT,fX,eE,fP,fX,eI,fE
gP,gT,gX,fP,fT,fX,eOP,fT,fX,eUO,gX,fT,dO,eP,eT,eX,dUO,fP,fT,fX,dXA,fP,fT,fX,eE,fP,fX,eI,fE,gP,gT,gX
fP,fT,fX,eO,fP,fT,fX,eUO,gP,gT,gX,cI,dE,eP,eT,eX,dP,dT,eERATION MARK,dX,cJI,eE,fP,fT,fX,eP,eT,eX,dJI
fE,gP,gT,gX,fP,fT,fX,eO,fP,fT,fX,eU,fO,gP,gX,fP,fR,gX,fT,fX,eY,fP,fT,fX,dO,eP,eT,eX,dU,eO,fP,fT,fX
eP,eR,fX,eT,eX,dY,eP,eR,fX,eT,eX,cKA,eP,eT,eX,dE,eP,eT,eX,dI,eE,fP,fX,eP,eT,eX,dO,eP,eT,eX,dU,eO,fP
fX,eP,eR,fX,eT,eX,cLA,eP,eT,eX,dE,eP,eX,dI,eE,fP,fT,fX,eP,eT,eX,dO,eP,eT,eX,dU,eO,fP,fT,fX,eP,eR,fX
eT,eX,dY,eP,eR,fX,eT,eX,cMA,eP,eT,eX,dE,eX,dGA,fP,fT,fX,eE,fP,fX,eIE,gX,eO,fP,fT,fX,eU,fO,gP,gX,fP
fR,gX,fT,fX,dI,eE,fP,fX,eP,eT,eX,dO,eP,eT,eX,dU,eO,fP,fT,fX,eP,eR,fX,eT,eX,dY,eP,eT,eX,cNA,eP,eX,dBA
fP,fT,fX,eI,fE,gP,gX,fP,fT,fX,eO,fP,fT,fX,eU,fP,fR,gX,fT,fX,eY,fP,fR,gX,fT,fX,dDA,fP,fT,fX,eE,fP,fX
eI,fE,gX,fP,fT,fX,eO,fP,fT,fX,eU,fP,fR,gX,fT,fX,dE,eP,eX,dGA,fP,fT,fX,eE,fP,fX,eIE,gP,gX,eO,fP,fT,fX
eUO,gT,gX,dI,eE,fP,fX,eP,eT,eX,dJI,fE,gP,gT,gX,fP,fT,fX,eO,fP,fT,fX,eU,fO,gX,fP,fR,gX,fX,eY,fP,fR,gX
fT,fX,dO,eP,eT,eX,dRA,fP,fT,fX,eE,fP,fT,fX,eO,fP,fX,eU,fP,fR,gX,fT,fX,eY,fP,fR,gX,fT,fX,dU,eO,fP,fX
eP,eR,fX,eT,eX,dYI,fE,gP,gT,gX,fP,fT,fX,eO,fP,fT,fX,eU,fO,gP,gX,fP,fT,fX,dZA,fP,fT,fX,eE,fX,eI,fE,gP
gX,fP,fT,fX,eOP,fX,eU,fO,gX,fP,fR,gX,fX,eY,fP,fR,gX,fT,fX,cO,dP,dT,dX,cPA,eP,eT,eX,dI,eE,fP,fX,eP,eT
eX,dO,eP,eT,eX,dU,eO,fP,fX,eP,eR,fX,eT,eX,dY,eP,eR,fX,eT,eX,cQI,eE,fP,fT,fX,eP,eT,eX,dO,eP,eT,eX,dU
eO,fP,fT,fX,eP,eR,fX,eT,eX,dY,eP,eR,fX,eT,eX,cRA,eP,eT,eX,dE,eP,eX,dO,eP,eT,eX,dRA,fX,eE,fP,fT,fX,eO
fP,fT,fX,eU,fO,gX,fP,fR,gX,fT,fX,eY,fP,fR,gX,fT,fX,dU,eO,fP,fX,eP,eR,fX,eT,eX,dY,eP,eR,fX,eT,eX,cSA
eP,eT,eX,dE,eP,eX,dHA,fP,fT,fX,eE,fP,fT,fX,eO,fP,fT,fX,eU,fO,gP,gX,fP,fR,gX,fT,fX,eY,fP,fR,gX,fT,fX
dI,eE,fP,fX,eP,eT,eX,dO,eP,eT,eX,dSA,fP,fT,fX,eE,fP,fX,eI,fE,gP,gX,fP,fT,fX,eO,fP,fT,fX,eU,fP,fT,fX
eY,fP,fR,gX,fT,fX,dU,eO,fP,fX,eP,eR,fX,eT,eX,dY,eP,eR,fX,eT,eX,cTA,eP,eT,eX,dE,eP,eX,dI,eE,fP,fX,eP
eT,eX,dO,eP,eT,eX,dU,eO,fP,fT,fX,eP,eR,fX,eT,eX,cUO,eP,eX,cVA,eP,eT,eX,dEP,eX,dI,eE,fP,fT,fX,eP,eT
eX,dO,eP,eT,eX,dU,eP,eR,fX,eT,eX,dY,eP,eR,fX,eT,eX,cWA,eP,eT,eX,dE,eP,eX,dO,eP,eX,dU,eO,fP,fX,cXI,eE
fP,fT,fX,eP,eT,eX,dO,eP,eT,eX,dUO,fX,dY,eP,eR,fX,eT,eX,cYI,eE,fP,fT,fX,eP,eT,eX,dO,eP,eT,eX,dU,eO,fP
fT,fX,eP,eR,fX,eT,eX,dY,eP,eR,fX,eT,eX,cZA,eP,eT,eX,dE,eP,eX,dHA,fP,fT,fX,eE,fP,fT,fX,eO,fP,fT,fX,eU
fO,gP,gX,fP,fR,gX,fT,fX,eY,fP,fR,gX,fT,fX,dI,eE,fP,fX,eP,eT,eX,dO,eP,eT,eX,dU,eO,fP,fX,eP,eR,fX,eT
eX,dY,eP,eR,fX,eT,eX,dZA,fP,fT,fX,eE,fP,fX,eI,fE,gP,gT,gX,fP,fT,fX,eO,fP,fX,eU,fP,fR,gX,fX,eY,fP,fR
gX,fT,fX,2N YANG,1O-YO,0Z NOTATION BAG MEMBERSHIP,bDOMAIN ANTIRESTRICTION,bLEFT BINDING BRACKET
gIMAGE BRACKET,bRANGE ANTIRESTRICTION,cELATIONAL COMPOSITION,cIGHT BINDING BRACKET,hIMAGE BRACKET
bSCHEMA COMPOSITION,iPIPING,jROJECTION,cPOT,bTYPE COLON
1ANABAZAR SQUARE CLOSING DOUBLE-LINED HEAD MARK,pHEAD MARK,jUSTER-FINAL LETTER LA,zER RA,zER VA
zER YA,pINITIAL LETTER RA,hFINAL CONSONANT MARK,hINITIAL DOUBLE-LINED HEAD MARK,pHEAD MARK
hLETTER -A,oA,oBA,pHA,oCA,pHA,oDA,pDA,qHA,pHA,pZA,qHA,oGA,pHA,oHA,oJA,oKA,pHA,pSSA,oLA,oMA,oNA,pGA
pNA,pYA,oPA,pHA,oRA,oSA,pHA,pSA,oTA,pHA,pSA,qHA,pTA,qHA,oVA,oYA,oZA,pHA,hMARK DOUBLE SHAD
mLONG TSHEG,mSHAD,mTSHEG,hSIGN ANUSVARA,mCANDRA WITH ORNAMENT,sBINDU,x WITH ORNAMENT,mVIRAMA,oSARGA
iUBJOINER,hVOWEL LENGTH MARK,nSIGN AI,tU,sE,sI,sO,tE,sREVERSED I,sU,tE,1EBRA FACE,2RO WIDTH JOINER
bNO-BREAK SPACE,dN-JOINER,bSPACE,2US,1IPPER-MOUTH FACE,1NAMENNY COMBINING ATTACHING VERTICAL OMET
jLOWER TONAL RANGE INDICATOR,jMARK BORZAYA,oCHASHKA,v POLNAYA,pURVED OMET,oDEMESTVENNY ZADERZHKA
pVOETOCHIE,oGORAZDO NIZKO ON LEFT,zKO ON RIGHT,zKO S KRYZHEM ON LEFT,zKO S KRYZHEM ON RIGHT,wVYSOKO
oKACHKA,pRYZH,t ON LEFT,pUPNAYA,oLOMKA,oMALO POVYSHE ON LEFT,zE ON RIGHT,zE S KHOKHLOM ON LEFT
zE S KHOKHLOM ON RIGHT,zE S KRYZHEM,zE STRANNO,oNIZKO ON LEFT,xRIGHT,uS KRYZHEM ON LEFT
zZHEM ON RIGHT,oOBLACHKO,pN,pTSECHKA,oPODCHASHIE,y WITH VERTICAL STROKE,rVERTKA,qVYSHE ON LEFT
zRIGHT,wS KHOKHLOM ON LEFT,zHOKHLOM ON RIGHT,zRYZHEM,xTRANNO,oRAVNO,qZSEKA,oSKOBA,pOROCHYA NOZHKA
pREDNE ON LEFT,yRIGHT,pTRANNO MALO POVYSHE,oTIKHAYA,pOCHKA,pSATA ON LEFT,xRIGHT,uS KRYZHEM,oUDARKA
oVYSOKO ON LEFT,yRIGHT,vS KHOKHLOM ON LEFT,zOKHLOM ON RIGHT,yRYZHEM,oZADERZHKA,pELO,qVOK
jTONAL RANGE MARK MRACHNO,z SVETLO,z TRESVETLO,9NEUME CHASHKA,hELYUSTKA,fDEMESTVENNY KLYUCH,hRBITSA
gOUBLE ZAPYATAYA,gUDA,gVA V CHELNU,fFITA,fGOLUBCHIK BORZY,pMRACHNY,pSVETLY,pTIKHY,qRESVETLY,fKHAMILO
gLYUCH,gOBYLA,gRYUK,k TIKHY,iZH,gUFISMA,fMECHIK,l KLYUCHENEPOSTOYANNY,tPOVODNY,tVOY,mPOVODNY,fNEMKA
fOBLAKO,gSOKA,k KLYUCHEVAYA NEPOSTOYANNAYA,xSVETLAYA,mRYUKOVAYA SVETLAYA,lSVETLAYA,lTRESVETLAYA
fPALKA,hRAKLIT,hUK,gEREVODKA,o NEPOSTOYANNAYA,gODCHASHIE,hLKULIZMY,fREVERSED CHELYUSTKA,gOG
fSKAMEYTSA DVOECHELNAYA KLYUCHEVAYA,zYA NEPOSTOYANNAYA,zYA PROSTAYA,zYA SVETLAYA
pKLYUCHENEPOSTOYANNAYA,wVAYA SVETLAYA,zA TIKHAYA,pMRACHNAYA,pSVETLAYA,pTIKHAYA,qRESVETLAYA,gLOZHITIE
o S KRYZHEM,rZAPYATOY,pZAKRYTOE,gTATYA,l NEPOSTOYANNAYA,mS DVUMYA ZAPYATYMI,oKRYZHEM,v I ZAPYATOY
oROGOM,oZAPYATOY,w I KRYZHEM,zPODCHASHIEM,mZAKRYTAYA,v S ZAPYATOY,hOPITSA,n S OCHKOM
oWITH SOROCHYA NOZHKA,hRELA DVOECHELNAYA,y KLYUCHEVAYA,vOKRYZHEVAYA,wPOVODNAYA,zODNAYA KLYUCHEVAYA
mGROMNAYA,u WITH SINGLE ZAPYATAYA,qOKRYZHEVAYA,zYA POVODNAYA,rPOVODNAYA,zA WITH DOUBLE ZAPYATAYA
zA WITH SINGLE ZAPYATAYA,mKLYUCHENEPOSTOYANNAYA,tPOVODNAYA,nRYUKOVAYA,w GROMNAYA
zOMNAYA WITH SINGLE ZAPYATAYA,zOMOKRYZHEVAYA,zOMOKRYZHEVAYA POVODNAYA,zOMOPOVODNAYA
zOMOPOVODNAYA WITH DOUBLE ZAPYATAYA,zOMOPOVODNAYA WITH SINGLE ZAPYATAYA,xPOVODNAYA,xTRYASKA,pZHEVAYA
mMRACHNOTIKHAYA,mNEPOSTOYANNAYA,mPOLUPOVODNAYA,oVODNAYA,nROSTAYA,mTIKHAYA PUTNAYA,nRYASOGLASNAYA
sPOVODNAYA,sSTRELNAYA,fVRAKHIYA KLYUCHEVAYA MRACHNAYA,z PROSTAYA,z SVETLAYA,z TRESVETLAYA,oMRACHNAYA
oPROSTAYA,oSVETLAYA,oTRESVETLAYA,fZANOZHEK,hPYATAYA,gMEYTSA,9PRIZNAK MODIFIER DIRECTION FLIP,qKRYZH
qLEVEL-2,w3,qROG,1OMBIE,1WJ,2NBSP,3J,2SP"

end GlobalSurvey.Text.CharName
